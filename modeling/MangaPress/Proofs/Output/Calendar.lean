/-
# The folders of days

The folder of a month tells the year and the month, however many digits the year has and whatever
its sign is, and the folder of a day tells the day. So no two days have the same folders. The names
of all days of the calendar are short.

Key theorems: `Date.toInt?_yearText`, `Date.eq_of_folders`, `Date.utf8Length_monthFolder_le`.
-/
import MangaPress.Proofs.Output.Folder

namespace MangaPress

namespace Text

theorem dash_not_mem_ofNatPadded (width n : Nat) : '-' ∉ ofNatPadded width n :=
  fun h => absurd (isDigit_of_mem_ofNatPadded h) (by decide)

theorem toNat_lt_of_isDigit {c : Char} (h : isDigit c = true) : c.toNat < 0x80 := by
  have hle : c ≤ '9' := by
    simpa using (Bool.and_eq_true_iff.mp h).2
  exact Nat.lt_of_le_of_lt hle (by decide)

theorem ascii_ofNat (n : Nat) : ∀ c ∈ ofNat n, c.toNat < 0x80 :=
  fun _ hc => toNat_lt_of_isDigit (isDigit_of_mem_ofNat hc)

theorem ascii_ofNatPadded (width n : Nat) : ∀ c ∈ ofNatPadded width n, c.toNat < 0x80 :=
  fun _ hc => toNat_lt_of_isDigit (isDigit_of_mem_ofNatPadded hc)

end Text

namespace Date

variable {d d' : Date}

/-! ### What a folder tells -/

theorem toInt?_yearText (d : Date) : Text.toInt? d.yearText = some d.year := by
  unfold yearText
  split
  · rename_i hyear
    rw [Text.toInt?_of_toNat? (Text.toNat?_ofNatPadded 4 d.year.toNat), Int.toNat_of_nonneg hyear.1]
  · split
    · rename_i hyear
      rw [Text.toInt?, Text.toNat?_ofNat, Option.map_some, Int.ofNat_eq_natCast,
        Int.toNat_of_nonneg hyear]
    · rename_i hyear
      have hback : -((-d.year).toNat : Int) = d.year := by omega
      rw [Text.toInt?, Text.toNat?_ofNatPadded]
      exact congrArg some hback

/-- The last dash divides the year, which may begin with one itself, from the month. -/
theorem splitOnce_reverse_monthFolder (d : Date) :
    Text.splitOnce '-' d.monthFolder.reverse =
      some ((Text.ofNatPadded 2 d.month).reverse, d.yearText.reverse) := by
  have hdash : '-' ∉ (Text.ofNatPadded 2 d.month).reverse := by
    rw [List.mem_reverse]
    exact Text.dash_not_mem_ofNatPadded 2 d.month
  rw [monthFolder, List.reverse_append, List.reverse_cons, List.append_assoc]
  exact Text.splitOnce_append hdash d.yearText.reverse

theorem eq_of_monthFolder (h : d.monthFolder = d'.monthFolder) :
    d.year = d'.year ∧ d.month = d'.month := by
  have hsplit := splitOnce_reverse_monthFolder d
  rw [h, splitOnce_reverse_monthFolder, Option.some.injEq, Prod.mk.injEq, List.reverse_inj,
    List.reverse_inj] at hsplit
  obtain ⟨hmonth, hyear⟩ := hsplit
  have hread := toInt?_yearText d
  rw [← hyear, toInt?_yearText, Option.some.injEq] at hread
  exact ⟨hread.symm, (Text.ofNatPadded_inj.mp hmonth).symm⟩

/-- **The folders of a day are those of no other day.** -/
theorem eq_of_folders (hmonth : d.monthFolder = d'.monthFolder)
    (hday : d.dayFolder = d'.dayFolder) : d = d' := by
  obtain ⟨hy, hm⟩ := eq_of_monthFolder hmonth
  have hd : d.day = d'.day := Text.ofNatPadded_inj.mp hday
  cases d
  cases d'
  simp only at hy hm hd
  rw [hy, hm, hd]

/-! ### Short names -/

/-- The day is one of the calendar. -/
def InCalendar (d : Date) : Prop :=
  of? d.year d.month d.day = some d

instance (d : Date) : Decidable d.InCalendar :=
  inferInstanceAs (Decidable (of? d.year d.month d.day = some d))

theorem daysInMonth_bounds {year : Int} {month : Nat} (h : 0 < daysInMonth year month) :
    month ≤ 12 ∧ daysInMonth year month ≤ 31 := by
  unfold daysInMonth at h ⊢
  split at h
  all_goals simp_all
  split <;> omega

theorem InCalendar.bounds (h : d.InCalendar) :
    firstYear ≤ d.year ∧ d.year ≤ lastYear ∧ d.month ≤ 12 ∧ d.day ≤ 31 := by
  unfold InCalendar of? at h
  split at h
  · rename_i hdate
    obtain ⟨hfirst, hlast, hday, hlength⟩ := hdate
    obtain ⟨hmonth, hmost⟩ := daysInMonth_bounds (Nat.lt_of_lt_of_le hday hlength)
    exact ⟨hfirst, hlast, hmonth, Nat.le_trans hlength hmost⟩
  · cases h

theorem mem_monthFolder {c : Char} (h : c ∈ d.monthFolder) :
    Text.isDigit c = true ∨ c = '-' ∨ c = '+' := by
  have hpadded : ∀ {width n : Nat}, c ∈ Text.ofNatPadded width n →
      Text.isDigit c = true ∨ c = '-' ∨ c = '+' :=
    fun hc => .inl (Text.isDigit_of_mem_ofNatPadded hc)
  rcases List.mem_append.mp h with hyear | hmonth
  · unfold yearText at hyear
    split at hyear
    · exact hpadded hyear
    · split at hyear
      · rcases List.mem_cons.mp hyear with hsign | hdigit
        · exact .inr (.inr hsign)
        · exact .inl (Text.isDigit_of_mem_ofNat hdigit)
      · rcases List.mem_cons.mp hyear with hsign | hdigit
        · exact .inr (.inl hsign)
        · exact hpadded hdigit
  · rcases List.mem_cons.mp hmonth with hdash | hdigit
    · exact .inr (.inl hdash)
    · exact hpadded hdigit

theorem ascii_monthFolder (d : Date) : ∀ c ∈ d.monthFolder, c.toNat < 0x80 := by
  intro c hc
  rcases mem_monthFolder hc with hdigit | rfl | rfl
  · exact Text.toNat_lt_of_isDigit hdigit
  · decide
  · decide

/-- A year of the calendar has at most six digits and a sign. -/
theorem length_yearText_le (h : d.InCalendar) : d.yearText.length ≤ 7 := by
  obtain ⟨hfirst, hlast, -, -⟩ := h.bounds
  rw [firstYear] at hfirst
  rw [lastYear] at hlast
  have hsix : (Text.ofNat 262143).length = 6 := by decide +kernel
  have hpositive : (Text.ofNat d.year.toNat).length ≤ (Text.ofNat 262143).length :=
    Text.length_ofNat_le (by omega)
  have hnegative : (Text.ofNat (-d.year).toNat).length ≤ (Text.ofNat 262143).length :=
    Text.length_ofNat_le (by omega)
  unfold yearText
  split
  · rw [Text.length_ofNatPadded]
    omega
  · split
    · rw [List.length_cons]
      omega
    · rw [List.length_cons, Text.length_ofNatPadded]
      omega

theorem utf8Length_monthFolder_le (h : d.InCalendar) : Text.utf8Length d.monthFolder ≤ 10 := by
  obtain ⟨-, -, hmonth, -⟩ := h.bounds
  have hyear := length_yearText_le h
  have htwo : (Text.ofNat 12).length = 2 := by decide +kernel
  have hdigits := Text.length_ofNat_le hmonth
  rw [Text.utf8Length_of_ascii d.ascii_monthFolder, monthFolder, List.length_append,
    List.length_cons, Text.length_ofNatPadded]
  omega

theorem utf8Length_dayFolder_le (h : d.InCalendar) : Text.utf8Length d.dayFolder ≤ 2 := by
  obtain ⟨-, -, -, hday⟩ := h.bounds
  have htwo : (Text.ofNat 31).length = 2 := by decide +kernel
  have hdigits := Text.length_ofNat_le hday
  rw [dayFolder, Text.utf8Length_of_ascii (Text.ascii_ofNatPadded 2 d.day), Text.length_ofNatPadded]
  omega

end Date

end MangaPress
