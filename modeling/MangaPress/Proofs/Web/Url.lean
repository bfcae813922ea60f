/-
# Files below an address

An address without query and fragment to which a slash and a file name are added is the same address
but for its last segment, which is the file name as it is sent: `Url.parse?_append_file`. This needs
that the file name is proper (`Url.ProperFile`: no slash, no mark that ends a path, no dots that
would be resolved, nothing that would be dropped) and that the address does not end with its scheme,
for then the file name would be taken for the host.

Key definitions: `Url.segmentsOf`, `Url.AfterScheme`, `Url.ProperFile`, `Url.withFile`,
`Url.directoryOf`, `Url.trimmedPath`.
Key theorems: `Url.pathOnly_path`, `Url.parse?_append_file`, `Url.directoryOf_of_ofRest`,
`Url.exists_directory`.
-/
import MangaPress.Proofs.Text.Trim
import MangaPress.Proofs.Web.Form
import MangaPress.Web.Url

namespace MangaPress.Web.Url

/-! ### The parts of an address -/

/-- The segments of what follows the authority of an address without query and fragment. -/
def segmentsOf (rest : Text) : List Text :=
  resolveSegments [] (splitSlashes (rest.drop 1))

/-- No query begins in the text, and no fragment. -/
def PathOnly (t : Text) : Prop :=
  ∀ c ∈ t, c ≠ '?' ∧ c ≠ '#'

/-- The name of one of the two schemes. -/
inductive IsScheme (scheme : Text) : Bool → Prop where
  | http (h : asciiLower scheme = "http".toList) : IsScheme scheme false
  | https (h : asciiLower scheme = "https".toList) : IsScheme scheme true

theorem stripScheme?_eq_some_iff {t after : Text} {secure : Bool} :
    stripScheme? t = some (secure, after) ↔
      ∃ scheme, t = scheme ++ ':' :: after ∧ ':' ∉ scheme ∧ IsScheme scheme secure := by
  have hsplit : ∀ scheme, (t = scheme ++ ':' :: after ∧ ':' ∉ scheme ∧ IsScheme scheme secure) ↔
      Text.splitOnce ':' t = some (scheme, after) ∧ IsScheme scheme secure := fun scheme => by
    rw [Text.splitOnce_eq_some_iff, and_assoc]
  simp only [hsplit]
  unfold stripScheme?
  cases ht : Text.splitOnce ':' t with
  | none => simp
  | some p =>
    obtain ⟨scheme, after'⟩ := p
    dsimp only
    constructor
    · intro h
      split at h
      · cases h
        exact ⟨scheme, rfl, .http ‹_›⟩
      · split at h <;> cases h
        exact ⟨scheme, rfl, .https ‹_›⟩
    · rintro ⟨_, h, hscheme⟩
      cases h
      cases hscheme with
      | http h => rw [if_pos h]
      | https h => rw [if_neg (by rw [h]; decide), if_pos h]

/-- What follows the scheme and the slashes after it is `rest`. -/
def AfterScheme (t : Text) (secure : Bool) (rest : Text) : Prop :=
  ∃ after, stripScheme? t = some (secure, after) ∧ after.dropWhile isSlash = rest

section Congr

variable {p q : Char → Bool}

theorem takeWhile_congr : ∀ {t : Text}, (∀ c ∈ t, p c = q c) → t.takeWhile p = t.takeWhile q
  | [], _ => rfl
  | c :: t, h => by
    have ih := takeWhile_congr fun d hd => h d (List.mem_cons_of_mem c hd)
    rw [List.takeWhile_cons, List.takeWhile_cons, h c List.mem_cons_self, ih]

theorem dropWhile_congr : ∀ {t : Text}, (∀ c ∈ t, p c = q c) → t.dropWhile p = t.dropWhile q
  | [], _ => rfl
  | c :: t, h => by
    have ih := dropWhile_congr fun d hd => h d (List.mem_cons_of_mem c hd)
    rw [List.dropWhile_cons, List.dropWhile_cons, h c List.mem_cons_self, ih]

/-- Dropping stops at the latest where what is added is not dropped. -/
theorem dropWhile_append_of_eq {x : Text} (hx : x.dropWhile p = x) (t : Text) :
    (t ++ x).dropWhile p = t.dropWhile p ++ x := by
  rw [List.dropWhile_append, hx]
  split
  · rename_i h
    rw [List.isEmpty_iff.mp h]
    rfl
  · rfl

end Congr

/-- The address without query and fragment whose scheme is followed by `rest`. -/
def ofRest (secure : Bool) (rest : Text) : Option Url :=
  let host := hostPart (rest.takeWhile fun c => !isSlash c)
  if isHost host then
    some { secure, authority := host, segments := segmentsOf (rest.dropWhile fun c => !isSlash c) }
  else none

theorem parse?_of_pathOnly {t rest : Text} {secure : Bool} (hs : AfterScheme (cleaned t) secure rest)
    (hp : PathOnly rest) : parse? t = ofRest secure rest := by
  obtain ⟨after, hs, rfl⟩ := hs
  have hend : ∀ c ∈ after.dropWhile isSlash,
      (!(isSlash c || c == '?' || c == '#')) = !isSlash c := by
    intro c hc
    obtain ⟨h1, h2⟩ := hp c hc
    rw [beq_false_of_ne h1, beq_false_of_ne h2, Bool.or_false, Bool.or_false]
  have hsub : ∀ c ∈ (after.dropWhile isSlash).dropWhile fun c => !isSlash c, c ≠ '?' ∧ c ≠ '#' :=
    fun c hc => hp c ((List.dropWhile_suffix _).mem hc)
  have hfragment := List.takeWhile_eq_self_iff.mpr fun c hc => bne_iff_ne.mpr (hsub c hc).2
  have hpath := List.takeWhile_eq_self_iff.mpr fun c hc => bne_iff_ne.mpr (hsub c hc).1
  have hquery := List.dropWhile_eq_nil_iff.mpr fun c hc => bne_iff_ne.mpr (hsub c hc).1
  unfold parse?
  simp only [Option.bind_eq_bind, hs, Option.bind_some, takeWhile_congr hend,
    dropWhile_congr hend, hfragment, hpath, hquery]
  rfl

/-! ### What is added to an address -/

/-- What remains of a text that something is added to that begins and ends with what counts. -/
def cleanedStart (t : Text) : Text :=
  (t.dropWhile isControlOrSpace).filter fun c => !isIgnored c

theorem AfterScheme.append {t rest : Text} {secure : Bool} (h : AfterScheme t secure rest)
    (hne : rest ≠ []) (x : Text) : AfterScheme (t ++ x) secure (rest ++ x) := by
  obtain ⟨after, hs, rfl⟩ := h
  obtain ⟨scheme, rfl, hno, hscheme⟩ := stripScheme?_eq_some_iff.mp hs
  refine ⟨after ++ x, stripScheme?_eq_some_iff.mpr ⟨scheme, ?_, hno, hscheme⟩, ?_⟩
  · rw [List.append_assoc, List.cons_append]
  · rw [List.dropWhile_append, if_neg (by simpa [List.isEmpty_iff] using hne)]

/-! ### Segments -/

/-- A text that can be the name of a file in an address. -/
structure ProperFile (f : Text) : Prop where
  noSlash : ∀ c ∈ f, isSlash c = false
  pathOnly : PathOnly f
  noIgnored : ∀ c ∈ f, isIgnored c = false
  noSingleDot : isSingleDot f = false
  noDoubleDot : isDoubleDot f = false
  last : ∀ c ∈ f.getLast?, isControlOrSpace c = false

theorem ProperFile.nil : ProperFile [] where
  noSlash := nofun
  pathOnly := nofun
  noIgnored := nofun
  noSingleDot := rfl
  noDoubleDot := rfl
  last := nofun

theorem map_slashes {f : Text} (h : ∀ c ∈ f, isSlash c = false) :
    f.map (fun c => if c == '\\' then '/' else c) = f := by
  refine (List.map_congr_left fun c hc => ?_).trans (List.map_id f)
  have hc := h c hc
  unfold isSlash at hc
  rw [Bool.or_eq_false_iff] at hc
  rw [hc.2]
  rfl

theorem splitSlashes_of_noSlash {f : Text} (h : ∀ c ∈ f, isSlash c = false) :
    splitSlashes f = [f] := by
  unfold splitSlashes
  rw [map_slashes h, Text.splitOn_eq_splitOn]
  exact List.splitOn_eq_singleton fun hc => absurd (h '/' hc) (by decide)

theorem splitSlashes_append_cons (t f : Text) :
    splitSlashes (t ++ '/' :: f) = splitSlashes t ++ splitSlashes f := by
  unfold splitSlashes
  simp only [Text.splitOn_eq_splitOn, List.map_append, List.map_cons]
  exact List.splitOn_append_cons_self _ _

/-- Among segments that others follow, the last one stays as it is. -/
theorem resolveSegments_append_file : ∀ (segments read : List Text), ∃ above, ∀ f,
    isDoubleDot f = false → isSingleDot f = false →
      resolveSegments read (segments ++ [f]) = above ++ [percentEncode isEncodedInPath f]
  | [], read => by
    refine ⟨read.reverse, fun f h2 h1 => ?_⟩
    rw [List.nil_append, resolveSegments, if_neg (by rw [h2]; exact Bool.false_ne_true),
      if_neg (by rw [h1]; exact Bool.false_ne_true), resolveSegments, List.reverse_cons]
  | segment :: segments, read => by
    have hmore : ∀ f, (segments ++ [f]).isEmpty = false := by simp
    have ih := resolveSegments_append_file segments
    simp only [List.cons_append, resolveSegments, hmore, Bool.false_eq_true, if_false]
    split
    · exact ih _
    · split
      · exact ih _
      · exact ih _

theorem segmentsOf_append_file (rest : Text) : ∃ above, ∀ f, ProperFile f →
    segmentsOf (rest ++ '/' :: f) = above ++ [percentEncode isEncodedInPath f] := by
  cases rest with
  | nil =>
    obtain ⟨above, h⟩ := resolveSegments_append_file [] []
    refine ⟨above, fun f hf => ?_⟩
    rw [segmentsOf, List.nil_append, List.drop_one, List.tail_cons, splitSlashes_of_noSlash hf.noSlash]
    exact h f hf.noDoubleDot hf.noSingleDot
  | cons c rest =>
    obtain ⟨above, h⟩ := resolveSegments_append_file (splitSlashes rest) []
    refine ⟨above, fun f hf => ?_⟩
    rw [segmentsOf, List.cons_append, List.drop_one, List.tail_cons,
      splitSlashes_append_cons, splitSlashes_of_noSlash hf.noSlash, h f hf.noDoubleDot hf.noSingleDot]

/-- Percent-encoding adds percent signs and digits, and nothing else. -/
theorem of_mem_percentEncode {isEncoded : Char → Bool} {t : Text} {c : Char}
    (h : c ∈ percentEncode isEncoded t) : c ∈ t ∨ c = '%' ∨ c ∈ "0123456789ABCDEF".toList := by
  obtain ⟨d, hd, h⟩ := List.mem_flatMap.mp h
  split at h
  · obtain ⟨b, -, hb⟩ := List.mem_flatMap.mp h
    exact .inr (of_mem_percentByte hb)
  · rw [List.mem_singleton.mp h]
    exact .inl hd

/-- No query begins in what is written of a path, and no fragment. -/
theorem pathOnly_percentEncode (t : Text) : PathOnly (percentEncode isEncodedInPath t) := by
  have hdigit : '?' ∉ "0123456789ABCDEF".toList ∧ '#' ∉ "0123456789ABCDEF".toList := by decide
  intro c hc
  obtain ⟨d, -, h⟩ := List.mem_flatMap.mp hc
  by_cases hd : isEncodedInPath d = true
  · rw [if_pos hd] at h
    obtain ⟨b, -, hb⟩ := List.mem_flatMap.mp h
    rcases of_mem_percentByte hb with rfl | hb
    · exact ⟨by decide, by decide⟩
    · exact ⟨ne_of_mem_of_not_mem hb hdigit.1, ne_of_mem_of_not_mem hb hdigit.2⟩
  · rw [if_neg hd] at h
    rw [List.mem_singleton.mp h]
    exact ⟨fun he => hd (he ▸ rfl), fun he => hd (he ▸ rfl)⟩

/-- What holds of the empty segment and of each that is written holds of all segments of a path. -/
theorem forall_mem_resolveSegments {P : Text → Prop} (hnil : P [])
    (hwritten : ∀ t, P (percentEncode isEncodedInPath t)) : ∀ segments read : List Text,
    (∀ s ∈ read, P s) → ∀ s ∈ resolveSegments read segments, P s
  | [], read, hread => fun s hs => hread s (List.mem_reverse.mp hs)
  | segment :: segments, read, hread => by
    have ih := forall_mem_resolveSegments hnil hwritten segments
    have htail : ∀ s ∈ read.tail, P s := fun s hs => hread s (List.mem_of_mem_tail hs)
    unfold resolveSegments
    by_cases hdouble : isDoubleDot segment = true
    · rw [if_pos hdouble]
      apply ih
      split
      · exact List.forall_mem_cons.mpr ⟨hnil, htail⟩
      · exact htail
    rw [if_neg hdouble]
    by_cases hsingle : isSingleDot segment = true
    · rw [if_pos hsingle]
      apply ih
      split
      · exact List.forall_mem_cons.mpr ⟨hnil, hread⟩
      · exact hread
    · rw [if_neg hsingle]
      exact ih _ (List.forall_mem_cons.mpr ⟨hwritten segment, hread⟩)

/-- The path of an address holds no mark that would end it. -/
theorem pathOnly_path {t : Text} {u : Url} (h : parse? t = some u) : PathOnly u.path := by
  have hsegment : ∀ s ∈ u.segments, PathOnly s := by
    simp only [parse?, Option.bind_eq_bind, Option.bind_eq_some_iff] at h
    obtain ⟨_, _, h⟩ := h
    split at h
    · cases h
      exact forall_mem_resolveSegments nofun pathOnly_percentEncode _ [] nofun
    · cases h
  intro c hc
  obtain ⟨s, hs, hc⟩ := List.mem_flatMap.mp hc
  rcases List.mem_cons.mp hc with rfl | hc
  · exact ⟨by decide, by decide⟩
  · exact hsegment s hs c hc

/-! ### Files below an address -/

/-- The address of a file in the directory with this address, which ends without a slash. -/
def withFile (u : Url) (f : Text) : Url :=
  { u with segments := u.segments ++ [percentEncode isEncodedInPath f] }

theorem target_withFile {u : Url} (h : u.query = none) (f : Text) :
    (u.withFile f).target = u.path ++ '/' :: percentEncode isEncodedInPath f := by
  rw [target, withFile, h]
  simp [path]

theorem cleaned_append_file (t : Text) {f : Text} (hf : ProperFile f) :
    cleaned (t ++ '/' :: f) = cleanedStart t ++ '/' :: f := by
  have hstart : (t ++ '/' :: f).dropWhile isControlOrSpace =
      t.dropWhile isControlOrSpace ++ '/' :: f := dropWhile_append_of_eq rfl t
  have hlast : ∀ c ∈ ('/' :: f).getLast?, isControlOrSpace c = false := by
    intro c hc
    cases f with
    | nil =>
      cases hc
      rfl
    | cons d f => exact hf.last c hc
  have hend : Text.dropEndWhile isControlOrSpace (t.dropWhile isControlOrSpace ++ '/' :: f) =
      t.dropWhile isControlOrSpace ++ '/' :: f := by
    rw [Text.dropEndWhile_eq_rdropWhile, List.rdropWhile_eq_self_iff]
    intro hne
    rw [List.getLast_append_right (List.cons_ne_nil _ _),
      hlast _ (List.getLast?_eq_getLast_of_ne_nil _)]
    exact Bool.false_ne_true
  have hkeep : ('/' :: f).filter (fun c => !isIgnored c) = '/' :: f := by
    rw [List.filter_eq_self, List.forall_mem_cons]
    exact ⟨rfl, fun c hc => by rw [hf.noIgnored c hc]; rfl⟩
  rw [cleaned, Text.dropOuterWhile, hstart, hend, List.filter_append, hkeep, cleanedStart]

/-- The directory in which files are put by a slash after `rest`. -/
def directoryOf (secure : Bool) (rest : Text) : Option Url :=
  (ofRest secure (rest ++ ['/'])).map fun u => { u with segments := u.segments.dropLast }

theorem query_of_directoryOf {secure : Bool} {rest : Text} {d : Url}
    (h : directoryOf secure rest = some d) : d.query = none := by
  obtain ⟨u, hu, rfl⟩ := Option.map_eq_some_iff.mp h
  unfold ofRest at hu
  dsimp only at hu
  split at hu <;> cases hu
  rfl

section Append

variable {x : Text}

/-- A slash ends the authority, if it has not ended before. -/
theorem takeWhile_append_slash (rest : Text) (hx : ∀ c ∈ x.head?, c = '/') :
    (rest ++ x).takeWhile (fun c => !isSlash c) = rest.takeWhile fun c => !isSlash c := by
  have hstop : x.takeWhile (fun c => !isSlash c) = [] := by
    cases x with
    | nil => rfl
    | cons c x =>
      rw [hx c rfl]
      rfl
  rw [List.takeWhile_append, hstop, List.append_nil]
  split
  · rename_i h
    exact ((List.takeWhile_prefix _).eq_of_length h).symm
  · rfl

theorem dropWhile_append_slash (rest : Text) (hx : ∀ c ∈ x.head?, c = '/') :
    (rest ++ x).dropWhile (fun c => !isSlash c) = rest.dropWhile (fun c => !isSlash c) ++ x := by
  refine dropWhile_append_of_eq ?_ rest
  cases x with
  | nil => rfl
  | cons c x =>
    rw [hx c rfl]
    rfl

theorem ofRest_append (secure : Bool) (rest : Text) (hx : ∀ c ∈ x.head?, c = '/') :
    ofRest secure (rest ++ x) =
      if isHost (hostPart (rest.takeWhile fun c => !isSlash c)) then some {
        secure, authority := hostPart (rest.takeWhile fun c => !isSlash c)
        segments := segmentsOf (rest.dropWhile (fun c => !isSlash c) ++ x) }
      else none := by
  rw [ofRest, takeWhile_append_slash rest hx, dropWhile_append_slash rest hx]

end Append

theorem ofRest_append_file (secure : Bool) (rest : Text) {f : Text} (hf : ProperFile f) :
    ofRest secure (rest ++ '/' :: f) = (directoryOf secure rest).map fun u => u.withFile f := by
  obtain ⟨above, habove⟩ := segmentsOf_append_file (rest.dropWhile fun c => !isSlash c)
  have hslash : ∀ g : Text, ∀ c ∈ ('/' :: g).head?, c = '/' := fun g c hc => by
    cases hc
    rfl
  rw [directoryOf, ofRest_append secure rest (hslash f), ofRest_append secure rest (hslash []),
    habove f hf, habove [] .nil]
  split
  · simp [withFile]
  · rfl

/-- **Files below an address.** To an address with something after its scheme, and without query and
fragment, a slash and a file name add one segment. -/
theorem parse?_append_file {t rest : Text} {secure : Bool}
    (hs : AfterScheme (cleanedStart t) secure rest) (hne : rest ≠ []) (hp : PathOnly rest)
    {f : Text} (hf : ProperFile f) :
    parse? (t ++ '/' :: f) = (directoryOf secure rest).map fun u => u.withFile f := by
  have hpath : PathOnly (rest ++ '/' :: f) := by
    simp only [PathOnly, List.forall_mem_append, List.forall_mem_cons]
    exact ⟨hp, by decide, hf.pathOnly⟩
  have hafter := hs.append hne ('/' :: f)
  rw [← cleaned_append_file t hf] at hafter
  rw [parse?_of_pathOnly hafter hpath, ofRest_append_file secure rest hf]

/-! ### Slashes at the end -/

/-- A path of segments without the slashes at its end. -/
def trimmedPath (segments : List Text) : Text :=
  Text.dropEndWhile (· == '/') (segments.flatMap ('/' :: ·))

theorem trimmedPath_append_nil (segments : List Text) :
    trimmedPath (segments ++ [[]]) = trimmedPath segments := by
  rw [trimmedPath, trimmedPath, List.flatMap_append, Text.dropEndWhile_eq_rdropWhile,
    Text.dropEndWhile_eq_rdropWhile]
  exact List.rdropWhile_concat_pos _ _ _ rfl

/-- One more empty segment adds a slash to the path, or nothing where dots end it. -/
theorem resolveSegments_append_nil (last : Text) : ∀ segments read : List Text,
    resolveSegments read (segments ++ [last, []]) = resolveSegments read (segments ++ [last]) ∨
      resolveSegments read (segments ++ [last, []]) =
        resolveSegments read (segments ++ [last]) ++ [[]]
  | [], read => by
    have hnil : ∀ read, resolveSegments read [[]] = read.reverse ++ [[]] := fun read =>
      List.reverse_cons
    simp only [List.nil_append, resolveSegments, List.isEmpty_cons, List.isEmpty_nil,
      Bool.false_eq_true, if_false, if_true]
    split
    · exact .inl rfl
    · split
      · exact .inl rfl
      · exact .inr List.reverse_cons
  | segment :: segments, read => by
    have hmore : ∀ more, (segments ++ last :: more).isEmpty = false := by simp
    have ih := resolveSegments_append_nil last segments
    simp only [List.cons_append, resolveSegments, hmore, Bool.false_eq_true, if_false]
    split
    · exact ih _
    · split
      · exact ih _
      · exact ih _

theorem trimmedPath_segmentsOf_append_slash (rest : Text) :
    trimmedPath (segmentsOf (rest ++ ['/'])) = trimmedPath (segmentsOf rest) := by
  cases rest with
  | nil => rfl
  | cons c rest =>
    have hne : splitSlashes rest ≠ [] := by
      unfold splitSlashes
      rw [Text.splitOn_eq_splitOn]
      exact List.splitOn_ne_nil _ _
    obtain ⟨segments, last, hlast⟩ := List.eq_nil_or_concat' (splitSlashes rest) |>.resolve_left hne
    have hnil : splitSlashes [] = [[]] := rfl
    rw [segmentsOf, segmentsOf, List.cons_append, List.drop_one, List.drop_one, List.tail_cons,
      List.tail_cons, splitSlashes_append_cons, hnil, hlast, List.append_assoc]
    rcases resolveSegments_append_nil last segments [] with h | h
    · exact congrArg trimmedPath h
    · exact (congrArg trimmedPath h).trans (trimmedPath_append_nil _)

theorem trimmedPath_segmentsOf_append_slashes (rest : Text) : ∀ n : Nat,
    trimmedPath (segmentsOf (rest ++ List.replicate n '/')) = trimmedPath (segmentsOf rest)
  | 0 => by rw [List.replicate_zero, List.append_nil]
  | n + 1 => by
    rw [List.replicate_succ', ← List.append_assoc, trimmedPath_segmentsOf_append_slash,
      trimmedPath_segmentsOf_append_slashes rest n]

/-- The directory in which files are put is that of the address itself, but for slashes at the end
of its path. -/
theorem directoryOf_of_ofRest {secure : Bool} {rest : Text} {n : Nat} {u : Url}
    (h : ofRest secure (rest ++ List.replicate n '/') = some u) :
    ∃ directory, directoryOf secure rest = some directory ∧
      directory.secure = u.secure ∧ directory.authority = u.authority ∧
      trimmedPath directory.segments = trimmedPath u.segments := by
  obtain ⟨above, habove⟩ := segmentsOf_append_file (rest.dropWhile fun c => !isSlash c)
  have habove := habove [] .nil
  have hslashes : ∀ c ∈ (List.replicate n '/').head?, c = '/' := by
    cases n <;> simp [List.replicate_succ]
  rw [ofRest_append secure rest hslashes] at h
  split at h
  · rename_i hhost
    cases h
    rw [directoryOf, ofRest_append secure rest (by simp), if_pos hhost]
    refine ⟨_, rfl, rfl, rfl, ?_⟩
    rw [trimmedPath_segmentsOf_append_slashes, ← trimmedPath_segmentsOf_append_slash, habove]
    have hlast : (above ++ [percentEncode isEncodedInPath []]).dropLast = above :=
      List.dropLast_concat
    exact (congrArg trimmedPath hlast).trans (trimmedPath_append_nil above).symm
  · cases h

/-! ### The directory of an address -/

theorem AfterScheme.mem {t rest : Text} {secure : Bool} (h : AfterScheme t secure rest) {c : Char}
    (hc : c ∈ rest) : c ∈ t := by
  obtain ⟨after, hs, rfl⟩ := h
  obtain ⟨scheme, rfl, -, -⟩ := stripScheme?_eq_some_iff.mp hs
  exact List.mem_append_right _ (List.mem_cons_of_mem _ ((List.dropWhile_suffix isSlash).mem hc))

/-- Slashes at the end of an address that has more after its scheme come after that. -/
theorem AfterScheme.of_append_slashes {t rest : Text} {secure : Bool} {n : Nat}
    (h : AfterScheme (t ++ List.replicate n '/') secure rest) (hne : rest ≠ []) :
    ∃ rest', AfterScheme t secure rest' ∧ rest' ≠ [] ∧ rest = rest' ++ List.replicate n '/' := by
  obtain ⟨after, hs, rfl⟩ := h
  obtain ⟨scheme, he, hno, hscheme⟩ := stripScheme?_eq_some_iff.mp hs
  have hcolon : ':' ∉ List.replicate n '/' := fun hc => absurd (List.eq_of_mem_replicate hc) (by decide)
  have hslashes : (List.replicate n '/').dropWhile isSlash = [] :=
    List.dropWhile_eq_nil_iff.mpr fun c hc => by
      rw [List.eq_of_mem_replicate hc]
      rfl
  obtain ⟨after', rfl, rfl⟩ : ∃ after', t = scheme ++ ':' :: after' ∧
      after = after' ++ List.replicate n '/' := by
    rcases List.append_eq_append_iff.mp he with ⟨more, rfl, hmore⟩ | ⟨more, rfl, hmore⟩
    · exact absurd (hmore ▸ List.mem_append_right _ List.mem_cons_self) hcolon
    · cases more with
      | nil =>
        rw [List.nil_append] at hmore
        exact absurd (hmore ▸ List.mem_cons_self) hcolon
      | cons c more =>
        cases hmore
        exact ⟨more, rfl, rfl⟩
  have hafter : after'.dropWhile isSlash ≠ [] := by
    intro hnil
    rw [List.dropWhile_append, hnil] at hne
    exact hne hslashes
  refine ⟨_, ⟨after', stripScheme?_eq_some_iff.mpr ⟨scheme, rfl, hno, hscheme⟩, rfl⟩, hafter, ?_⟩
  rw [List.dropWhile_append, if_neg (by simpa [List.isEmpty_iff] using hafter)]

theorem mem_of_mem_cleaned {t : Text} {c : Char} (h : c ∈ cleaned t) : c ∈ t := by
  have h := (List.mem_filter.mp h).1
  rw [Text.dropOuterWhile, Text.dropEndWhile_eq_rdropWhile] at h
  exact (List.dropWhile_suffix _).mem ((List.rdropWhile_prefix _ _).mem h)

/-- What an address is that has no query and no fragment. -/
theorem parse?_eq_some_pathOnly {t : Text} {u : Url} (h : parse? t = some u) (hp : PathOnly t) :
    ∃ secure rest, AfterScheme (cleaned t) secure rest ∧ rest ≠ [] ∧ ofRest secure rest = some u := by
  cases hs : stripScheme? (cleaned t) with
  | none =>
    unfold parse? at h
    simp only [hs, Option.bind_eq_bind, Option.bind_none] at h
    cases h
  | some p =>
    obtain ⟨secure, after⟩ := p
    have hafter : AfterScheme (cleaned t) secure (after.dropWhile isSlash) := ⟨after, hs, rfl⟩
    have hpath : PathOnly (after.dropWhile isSlash) := fun c hc =>
      hp c (mem_of_mem_cleaned (hafter.mem hc))
    rw [parse?_of_pathOnly hafter hpath] at h
    refine ⟨secure, _, hafter, fun hnil => ?_, h⟩
    rw [hnil] at h
    cases h

theorem cleanedStart_append_slashes (t : Text) (n : Nat) :
    cleanedStart (t ++ List.replicate n '/') = cleanedStart t ++ List.replicate n '/' := by
  have hkeep : (List.replicate n '/').filter (fun c => !isIgnored c) = List.replicate n '/' :=
    List.filter_eq_self.mpr fun c hc => by
      rw [List.eq_of_mem_replicate hc]
      rfl
  have hdrop : (List.replicate n '/').dropWhile isControlOrSpace = List.replicate n '/' := by
    cases n <;> rfl
  rw [cleanedStart, dropWhile_append_of_eq hdrop, List.filter_append, hkeep, cleanedStart]

/-- What counts of a text is a beginning of what counts of it as the start of a longer one. -/
theorem cleaned_prefix (t : Text) : cleaned t <+: cleanedStart t := by
  rw [cleaned, Text.dropOuterWhile, Text.dropEndWhile_eq_rdropWhile]
  exact (List.rdropWhile_prefix _ _).filter _

theorem cleaned_eq_cleanedStart {t : Text} (h : ∀ c ∈ t.getLast?, isControlOrSpace c = false) :
    cleaned t = cleanedStart t := by
  have hlast : Text.dropEndWhile isControlOrSpace (t.dropWhile isControlOrSpace) =
      t.dropWhile isControlOrSpace := by
    rw [Text.dropEndWhile_eq_rdropWhile, List.rdropWhile_eq_self_iff]
    intro hne
    rw [(List.dropWhile_suffix isControlOrSpace).getLast hne,
      h _ (List.getLast?_eq_getLast_of_ne_nil _)]
    exact Bool.false_ne_true
  rw [cleaned, Text.dropOuterWhile, hlast, cleanedStart]

theorem exists_eq_append_slashes (t : Text) :
    ∃ n, t = Text.dropEndWhile (· == '/') t ++ List.replicate n '/' := by
  refine ⟨(t.rtakeWhile (· == '/')).length, ?_⟩
  have hall : t.rtakeWhile (· == '/') = List.replicate (t.rtakeWhile (· == '/')).length '/' :=
    List.eq_replicate_iff.mpr ⟨rfl, fun c hc => by
      simpa using List.mem_rtakeWhile_imp (p := (· == '/')) hc⟩
  rw [← hall, Text.dropEndWhile_eq_rdropWhile, List.rdropWhile_append_rtakeWhile]

/-- **Files below an address.** Put below an address without query and fragment, a file has the
address of the directory with one more segment. The directory is at the address itself, but for the
slashes at the end of its path, unless a blank at the end of the address becomes a part of it. -/
theorem exists_directory {t : Text} {u : Url} (h : parse? t = some u) (hp : PathOnly t) :
    ∃ directory : Option Url, (∀ d ∈ directory, d.query = none) ∧
      (∀ f, ProperFile f → parse? (Text.dropEndWhile (· == '/') t ++ '/' :: f) =
        directory.map fun d => d.withFile f) ∧
      ((∀ c ∈ t.getLast?, isControlOrSpace c = false) → ∃ d, directory = some d ∧
        d.secure = u.secure ∧ d.authority = u.authority ∧
        trimmedPath d.segments = trimmedPath u.segments) := by
  obtain ⟨secure, rest, hrest, hne, hu⟩ := parse?_eq_some_pathOnly h hp
  obtain ⟨n, hn⟩ := exists_eq_append_slashes t
  generalize Text.dropEndWhile (· == '/') t = address at hn ⊢
  obtain ⟨junk, hjunk⟩ := cleaned_prefix t
  have hlong := hrest.append hne junk
  rw [hjunk, hn, cleanedStart_append_slashes] at hlong
  obtain ⟨rest', haddress, hne', hrest'⟩ :=
    hlong.of_append_slashes (List.append_ne_nil_of_left_ne_nil hne _)
  have hpath : PathOnly rest' := by
    intro c hc
    have hmem := (List.dropWhile_suffix _).mem (List.mem_filter.mp (haddress.mem hc)).1
    exact hp c (hn ▸ List.mem_append_left _ hmem)
  refine ⟨directoryOf secure rest', fun d => query_of_directoryOf,
    fun f hf => parse?_append_file haddress hne' hpath hf, fun hlast => ?_⟩
  have hnone : junk = [] := by
    rw [cleaned_eq_cleanedStart hlast] at hjunk
    exact List.append_right_eq_self.mp hjunk
  rw [hnone, List.append_nil] at hrest'
  rw [hrest'] at hu
  exact directoryOf_of_ofRest hu

end MangaPress.Web.Url
