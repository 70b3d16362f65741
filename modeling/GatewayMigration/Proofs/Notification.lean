import GatewayMigration.Notification
import Mathlib.Data.List.Forall2
import Mathlib.Data.List.Induction

/-!
# The table of notifications

The table has a title, a line with the titles of its columns, and a line for each notification in
the order in which they were told. A notification shows the word for its level, its message, and the
object that it is about. Lengths are counted in characters, of any text: each column is as wide as
its longest text, titles included, and each cell is its whole text with blanks after it up to that
width. So all lines are as long as each other.

## Main definitions

* `Notification.Shows`: the texts that a notification shows in its row
* `Notification.IsWidth`: the length of the longest of some texts
* `Notification.Fills`: a cell of a width that holds a text
* `Notification.IsLine`, `Notification.Aligned`: a line of the table, and all of them

## Main results

* `Notification.foldl_notify`: notifications are kept in the order in which they are told
* `Notification.shows_iff`: a row is determined by the notification that it shows
* `Notification.aligned_lines`: the lines of any rows are aligned
* `Notification.exists_aligned_table`: the table of any notifications is a title and aligned lines
-/

namespace GatewayMigration

/-- The word for a level. -/
inductive NotificationLevel.Word : NotificationLevel → String → Prop
  | info : Word .info "INFO"
  | warning : Word .warning "WARNING"
  | error : Word .error "ERROR"

theorem NotificationLevel.word_iff {level : NotificationLevel} {s : String} :
    level.Word s ↔ s = level.text := by
  constructor
  · rintro ⟨⟩ <;> rfl
  · rintro rfl
    cases level <;> constructor

namespace Notification

/-- Notifications are kept in the order in which they are told. -/
theorem foldl_notify (calls : List Notification) : calls.foldl notify [] = calls := by
  induction calls using List.reverseRecOn with
  | nil => rfl
  | append_singleton calls n ih => rw [List.foldl_concat, ih, notify]

/-! ### Rows -/

/-- The text for the object of a notification. -/
inductive ObjectText : Option ObjectRef → String → Prop
  /-- A notification that is about no object leaves the cell empty. -/
  | none : ObjectText none ""
  /-- Otherwise the cell has the kind of the object, its namespace and its name. -/
  | object (kind ns name : String) :
      ObjectText (some ⟨kind, ⟨ns, name⟩⟩) (kind ++ " " ++ (ns ++ "/" ++ name))

/-- The texts that a notification shows in its row. -/
structure Shows (n : Notification) (r : Row) : Prop where
  level : n.level.Word r.level
  /-- The message is shown as it is. -/
  message : r.message = n.message
  related : ObjectText n.related r.related

theorem objectText_iff {related : Option ObjectRef} {s : String} :
    ObjectText related s ↔ s = (related.map ObjectRef.text).getD "" := by
  constructor
  · rintro ⟨⟩ <;> rfl
  · rintro rfl
    cases related with
    | none => exact .none
    | some r => exact .object r.kind r.name.ns r.name.name

/-- A row is determined by the notification that it shows. -/
theorem shows_iff {n : Notification} {r : Row} : Shows n r ↔ r = n.row := by
  constructor
  · rintro ⟨hlevel, hmessage, hrelated⟩
    rw [NotificationLevel.word_iff] at hlevel
    rw [objectText_iff] at hrelated
    rw [row, ← hlevel, ← hmessage, ← hrelated]
  · rintro rfl
    exact ⟨NotificationLevel.word_iff.mpr rfl, rfl, objectText_iff.mpr rfl⟩

/-! ### Widths -/

/-- The length of the longest of some texts. -/
structure IsWidth (w : Nat) (texts : List String) : Prop where
  /-- One of the texts is as long as that. -/
  reached : ∃ s ∈ texts, s.length = w
  /-- None is longer. -/
  bounds : ∀ s ∈ texts, s.length ≤ w

theorem isWidth_width {texts : List String} (h : texts ≠ []) : IsWidth (width texts) texts := by
  cases texts with
  | nil => exact absurd rfl h
  | cons s texts =>
    have hmax : ((s :: texts).map String.length).max? = some (width (s :: texts)) := by
      rw [List.map_cons, List.max?_cons', width, List.map_cons, List.foldl_cons, Nat.zero_max]
    obtain ⟨hmem, hbound⟩ := List.max?_eq_some_iff.mp hmax
    constructor
    · obtain ⟨longest, hlongest, hlength⟩ := List.mem_map.mp hmem
      exact ⟨longest, hlongest, hlength⟩
    · intro s' hs'
      exact hbound _ (List.mem_map_of_mem hs')

/-! ### Cells -/

/-- A cell of a width that holds a text: the whole text, and nothing but blanks after it. -/
structure Fills (w : Nat) (s cell : String) : Prop where
  length : cell.length = w
  text : ∃ n, cell = s ++ String.ofList (List.replicate n ' ')

theorem pushn_empty (c : Char) (n : Nat) : "".pushn c n = String.ofList (List.replicate n c) := by
  rw [String.pushn_eq_repeat_push]
  induction n with
  | zero => rfl
  | succ n ih =>
    rw [Nat.repeat, ih]
    apply String.toList_inj.mp
    rw [String.toList_push, String.toList_ofList, String.toList_ofList, List.replicate_succ']

/-- A text that is not longer than the width fills a cell. -/
theorem fills_pad {w : Nat} {s : String} (h : s.length ≤ w) : Fills w s (pad w s) where
  length := by
    rw [pad, String.length_append, String.length_pushn, String.length_empty]
    omega
  text := ⟨w - s.length, by rw [pad, pushn_empty]⟩

/-! ### Lines -/

/-- The line of a row whose columns have three widths. -/
structure IsLine (w₀ w₁ w₂ : Nat) (r : Row) (line : String) : Prop where
  /-- The cells stand between bars. -/
  cells : ∃ c₀ c₁ c₂, Fills w₀ r.level c₀ ∧ Fills w₁ r.message c₁ ∧ Fills w₂ r.related c₂ ∧
    line = "| " ++ c₀ ++ " | " ++ c₁ ++ " | " ++ c₂ ++ " |\n"
  /-- Its length, the end of the line included, depends on the widths alone. -/
  length : line.length = w₀ + w₁ + w₂ + 10 + 1

theorem isLine_line {w₀ w₁ w₂ : Nat} {r : Row} (h₀ : r.level.length ≤ w₀)
    (h₁ : r.message.length ≤ w₁) (h₂ : r.related.length ≤ w₂) :
    IsLine w₀ w₁ w₂ r (line w₀ w₁ w₂ r) where
  cells := ⟨_, _, _, fills_pad h₀, fills_pad h₁, fills_pad h₂, rfl⟩
  length := by
    have hbars : "| ".length = 2 ∧ " | ".length = 3 ∧ " |\n".length = 3 := by decide
    simp only [line, String.length_append, (fills_pad h₀).length, (fills_pad h₁).length,
      (fills_pad h₂).length, hbars]
    omega

/-- Lines for rows, one each, in columns of three widths. -/
structure Aligned (rows : List Row) (w₀ w₁ w₂ : Nat) (lines : List String) : Prop where
  /-- Each column is as wide as its longest text. -/
  level : IsWidth w₀ (rows.map Row.level)
  message : IsWidth w₁ (rows.map Row.message)
  related : IsWidth w₂ (rows.map Row.related)
  /-- There is a line for each row, in the order of the rows. -/
  lines : List.Forall₂ (IsLine w₀ w₁ w₂) rows lines

/-- **The lines of rows are aligned.** -/
theorem aligned_lines {rows : List Row} (h : rows ≠ []) :
    Aligned rows (width (rows.map Row.level)) (width (rows.map Row.message))
      (width (rows.map Row.related))
      (rows.map (line (width (rows.map Row.level)) (width (rows.map Row.message))
        (width (rows.map Row.related)))) := by
  have hwidth : ∀ column : Row → String, IsWidth (width (rows.map column)) (rows.map column) :=
    fun column => isWidth_width (mt List.map_eq_nil_iff.mp h)
  refine ⟨hwidth _, hwidth _, hwidth _, ?_⟩
  rw [List.forall₂_map_right_iff, List.forall₂_same]
  intro r hr
  have hfits : ∀ column : Row → String, (column r).length ≤ width (rows.map column) :=
    fun column => (hwidth column).bounds _ (List.mem_map_of_mem hr)
  exact isLine_line (hfits _) (hfits _) (hfits _)

/-- **The table of any notifications** is its title, and then aligned lines: one of the titles of
the columns, and one of the row that each notification shows, in the order in which they were
told. -/
theorem exists_aligned_table (provider : String) (calls : List Notification) :
    ∃ rows w₀ w₁ w₂ lines, List.Forall₂ Shows calls rows ∧
      Aligned (⟨"TYPE", "MESSAGE", "CALLING OBJECT"⟩ :: rows) w₀ w₁ w₂ lines ∧
      table provider (calls.foldl notify []) =
        "Notifications from " ++ Uppercase.ofString provider ++ ":\n" ++ String.join lines := by
  have hrows : List.Forall₂ Shows calls (calls.map row) := by
    rw [List.forall₂_map_right_iff, List.forall₂_same]
    exact fun n _ => shows_iff.mpr rfl
  rw [foldl_notify]
  exact ⟨_, _, _, _, _, hrows, aligned_lines (List.cons_ne_nil titles _), rfl⟩

example : table "gce" [⟨.warning, "ünïcode", some ⟨"Service", ⟨"ns", "a"⟩⟩⟩, ⟨.info, "hi", none⟩] =
    "Notifications from GCE:\n"
      ++ "| TYPE    | MESSAGE | CALLING OBJECT |\n"
      ++ "| WARNING | ünïcode | Service ns/a   |\n"
      ++ "| INFO    | hi      |                |\n" := by
  decide +kernel

end Notification

end GatewayMigration
