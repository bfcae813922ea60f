/-
# An example page

A complete page document for those who have none yet: three panels with two characters.
-/
import MangaPress.Text.Basic

namespace MangaPress

/-- A complete, valid page document. -/
def Page.exampleDocument : Text :=
  "
comic_page:
  language: Japanese
  style: japanese manga, chibi/deformed style
  writing-mode: vertical-rl
  color_mode: カラー
  aspect_ratio: '1:1.4'
  instructions: このYAMLは漫画ページの仕様です。添付の画像データ（キャラクター等、コマ割り画像）がある場合は、それらを外見の基準として忠実に反映し、このプロンプトの指示に従ってページを生成してください。
  layout_constraints: |
    指示: 以下のレイアウト制約を厳守して画像を生成してください。
    - ページ全体のアスペクト比は 1:1.4（幅:高さ）を絶対に厳守する。必要に応じて余白やトリミングで合わせる。
    - パネルは3つ。上から順に panel 1, 2, 3 を縦方向に配置する。
    - パネルの追加・削除・結合・回転・順序入替えは禁止。与えられた panel.number の順に配置する。
    - 各パネルの内容（人物・背景・効果・吹き出し・文字）はそのパネル枠の内部に完全に収める。
    - 収まりが難しい場合は、構図・スケール・軽微なトリミングで調整し、枠構成（コマ数や順序）は変えない。
    - 読み順は panel.number の昇順。
  character_infos:
  - name: TEN
    base_prompt: |
      A young male engineer character in chibi/deformed anime style.
      - Black messy hair with bangs
      - Round black-framed glasses
      - Black t-shirt and blue jeans
      - Casual, friendly appearance
      - Chibi proportions (large head, small body)
      - Expressive eyes visible through glasses
      This is a consistent character design that must be maintained across all panels.
  - name: CLAUDECODE
    base_prompt: |
      A cute robot character in chibi/deformed anime style wearing an astronaut suit.
      - White/silver astronaut helmet and suit
      - Orange circular face panel (like a visor)
      - Blue accents on the body
      - Small, round body with short limbs
      - Cable/cord extending from the back like a tail
      - Friendly, helpful appearance
      - Chibi proportions
      This is a consistent character design that must be maintained across all panels.
  panels:
  - number: 1
    page_position: top
    background: 深夜のデスク、モニターにInstagramが映っている
    description: パソコンの前で腕組みして考え込んでいる
    characters:
    - name: TEN
      panel_position: center
      emotion: troubled, thinking hard, hand on chin
      facing: 右
      shot: バストアップ
      pose: パソコンの前で腕組みして考え込んでいる
      description: パソコンの前で腕組みして考え込んでいる
      lines:
      - text: インスタでマンガ投稿したいけど...毎回描くの無理ゲーすぎる
        char_text_position: left
        type: speech
    effects: []
    monologues: []
    camera_angle: medium shot
  - number: 2
    page_position: middle
    background: 画面から飛び出してくる演出
    description: 元気いっぱい、片手を上げて挨拶
    characters:
    - name: CLAUDECODE
      panel_position: center
      emotion: suggesting, one finger raised, helpful gesture
      facing: 左
      shot: バストアップ
      pose: 元気いっぱい、片手を上げて挨拶
      description: 元気いっぱい、片手を上げて挨拶
      lines:
      - text: それ、AIで自動化できますよ！Google の Nano Banana 知ってます？
        char_text_position: right
        type: speech
    effects: []
    monologues: []
    camera_angle: medium shot
  - number: 3
    page_position: bottom
    background: 同じデスク
    description: 目を輝かせて身を乗り出す、メガネがキラリ
    characters:
    - name: TEN
      panel_position: center
      emotion: surprised, eyes wide, mouth open
      facing: 右
      shot: バストアップ
      pose: 目を輝かせて身を乗り出す、メガネがキラリ
      description: 目を輝かせて身を乗り出す、メガネがキラリ
      lines:
      - text: マジで!? どうやるの？
        char_text_position: left
        type: speech
    effects: []
    monologues: []
    camera_angle: medium shot
"

end MangaPress
