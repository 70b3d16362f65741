import GatewayMigration.FieldError
import GatewayMigration.Proofs.Lists
import Mathlib.Data.String.Basic

/-!
# The text of a field path

A path is written with a point before each field but the first one, and with its indices in
brackets. As long as the names of fields hold neither a point nor an opening bracket, a path can be
read back from its text: a name goes up to the next such mark, and an index up to its closing
bracket.

## Main definitions

* `PathEntry.Plain`, `FieldPath.Plain`: steps that can be told from what follows them
* `FieldPath.textFrom`: the text of a path that stands first, or after other steps
* `FieldPath.joint`: what stands between a step and a path after it

## Main results

* `FieldPath.text_cons`: the text of a path with one more step before it
* `FieldPath.eq_of_entryText_append_eq`: the first step of a path can be read back
* `FieldPath.eq_of_text_eq`: two paths with one text are the same path
-/

namespace GatewayMigration

/-- A step that can be told from what follows it: an index, or a field whose name is not empty and
holds neither a point nor an opening bracket. -/
def PathEntry.Plain : PathEntry → Prop
  | .field name => name ≠ "" ∧ '.' ∉ name.toList ∧ '[' ∉ name.toList
  | .index _ => True

@[simp] theorem PathEntry.plain_field {name : String} :
    (field name).Plain ↔ name ≠ "" ∧ '.' ∉ name.toList ∧ '[' ∉ name.toList := Iff.rfl

@[simp] theorem PathEntry.plain_index (i : Nat) : (index i).Plain := trivial

namespace FieldPath

/-- A path of steps that can be told from what follows them. -/
def Plain (p : FieldPath) : Prop := ∀ e ∈ p, e.Plain

@[simp] theorem plain_nil : Plain [] := List.forall_mem_nil _

@[simp] theorem plain_cons {e : PathEntry} {p : FieldPath} : Plain (e :: p) ↔ e.Plain ∧ p.Plain :=
  List.forall_mem_cons

@[simp] theorem plain_append {p p' : FieldPath} : Plain (p ++ p') ↔ p.Plain ∧ p'.Plain :=
  List.forall_mem_append

/-! ### Steps before a path -/

/-- The text of a path that stands first, or after other steps. -/
def textFrom (first : Bool) : FieldPath → String
  | [] => ""
  | e :: p => entryText first e ++ textFrom false p

theorem text_eq_textFrom (p : FieldPath) : p.text = p.textFrom true := by
  have hjoin : ∀ p : FieldPath, String.join (p.map (entryText false)) = p.textFrom false := by
    intro p
    induction p with
    | nil => rfl
    | cons e p ih => rw [List.map_cons, String.join_cons, ih, textFrom]
  cases p with
  | nil => rfl
  | cons e p => rw [text, hjoin, textFrom]

/-- What stands between a step and a path after it: a point if the path starts with a field. -/
def joint : FieldPath → String
  | .field _ :: _ => "."
  | _ => ""

theorem textFrom_false (p : FieldPath) : p.textFrom false = p.joint ++ p.text := by
  rw [text_eq_textFrom]
  cases p with
  | nil => rfl
  | cons e p =>
    cases e with
    | field name => simp [textFrom, entryText, joint, String.append_assoc]
    | index i => simp [textFrom, entryText, joint]

/-- **The text of a path with one more step before it.** -/
theorem text_cons (e : PathEntry) (p : FieldPath) :
    text (e :: p) = entryText true e ++ p.joint ++ p.text := by
  rw [text_eq_textFrom, textFrom, textFrom_false, String.append_assoc]

example : text [.index 0, .field "spec", .field "rules", .index 2, .field "host"] =
    "[0].spec.rules[2].host" := by
  decide

/-! ### Reading a path back -/

/-- A character that ends the name of a field. -/
def isMark (c : Char) : Bool := c = '.' || c = '['

theorem isMark_eq_false_of_plain {name : String} (h : (PathEntry.field name).Plain) {c : Char}
    (hc : c ∈ name.toList) : isMark c = false := by
  obtain ⟨-, hpoint, hbracket⟩ := h
  have hpoint : c ≠ '.' := by
    rintro rfl
    exact hpoint hc
  have hbracket : c ≠ '[' := by
    rintro rfl
    exact hbracket hc
  simp [isMark, hpoint, hbracket]

/-- After a step there is a mark, or the end. -/
theorem isMark_of_mem_head?_textFrom {p : FieldPath} {c : Char}
    (hc : c ∈ (p.textFrom false).toList.head?) : isMark c = true := by
  cases p with
  | nil => cases hc
  | cons e p =>
    cases e with
    | field name =>
      obtain rfl : '.' = c := by simpa [textFrom, entryText] using hc
      rfl
    | index i =>
      obtain rfl : '[' = c := by simpa [textFrom, entryText] using hc
      rfl

/-- The digits of an index hold no closing bracket. -/
theorem beq_bracket_eq_false {i : Nat} {c : Char} (hc : c ∈ (toString i).toList) :
    (c == ']') = false := by
  rw [Nat.toString_eq_repr, Nat.toList_repr] at hc
  have hdigit := Nat.isDigit_of_mem_toDigits (by decide) (by decide) hc
  rw [beq_eq_false_iff_ne]
  rintro rfl
  cases hdigit

theorem eq_of_toString_eq {i i' : Nat} (h : toString i = toString i') : i = i' := by
  have hread := congrArg (fun s : String => Nat.ofDigitChars 10 s.toList 0) h
  simpa [Nat.toString_eq_repr, Nat.toList_repr] using hread

/-- A text that goes up to a mark, or to the end, can be told from what follows. -/
theorem eq_of_string_append_eq {isMark : Char → Bool} {s s' t t' : String}
    (hs : ∀ c ∈ s.toList, isMark c = false) (hs' : ∀ c ∈ s'.toList, isMark c = false)
    (ht : ∀ c ∈ t.toList.head?, isMark c = true) (ht' : ∀ c ∈ t'.toList.head?, isMark c = true)
    (h : s ++ t = s' ++ t') : s = s' ∧ t = t' := by
  have hlists := congrArg String.toList h
  rw [String.toList_append, String.toList_append] at hlists
  obtain ⟨hleft, hright⟩ := eq_of_append_eq_append hs hs' ht ht' hlists
  exact ⟨String.toList_inj.mp hleft, String.toList_inj.mp hright⟩

/-- A field does not begin with an opening bracket, as an index does. -/
theorem head?_entryText_field_ne {first : Bool} {name : String}
    (h : (PathEntry.field name).Plain) (rest : String) :
    (entryText first (.field name) ++ rest).toList.head? ≠ some '[' := by
  obtain ⟨hne, -, hbracket⟩ := h
  cases first with
  | false => simp [entryText]
  | true =>
    cases hname : name.toList with
    | nil => exact absurd (String.toList_inj.mp hname) hne
    | cons c cs =>
      rw [hname] at hbracket
      have hc : c ≠ '[' := by
        rintro rfl
        exact hbracket (List.mem_cons_self ..)
      simpa [entryText, hname] using hc

theorem head?_entryText_index (first : Bool) (i : Nat) (rest : String) :
    (entryText first (.index i) ++ rest).toList.head? = some '[' := by
  simp [entryText]

/-- **The first step of a path can be read back**, and with it the text of the others. -/
theorem eq_of_entryText_append_eq {first : Bool} {e e' : PathEntry} {p p' : FieldPath}
    (he : e.Plain) (he' : e'.Plain)
    (h : entryText first e ++ p.textFrom false = entryText first e' ++ p'.textFrom false) :
    e = e' ∧ p.textFrom false = p'.textFrom false := by
  have hhead := congrArg (fun s => s.toList.head?) h
  cases e with
  | field name =>
    cases e' with
    | index i' =>
      rw [head?_entryText_index] at hhead
      exact absurd hhead (head?_entryText_field_ne he _)
    | field name' =>
      have hfield : ∀ name : String, entryText first (.field name) =
          (if first then "" else ".") ++ name := by
        intro name
        cases first <;> simp [entryText]
      rw [hfield, hfield, String.append_assoc, String.append_assoc, String.append_right_inj] at h
      -- both names go up to the next mark
      obtain ⟨rfl, hrest⟩ := eq_of_string_append_eq (fun _ => isMark_eq_false_of_plain he)
        (fun _ => isMark_eq_false_of_plain he') (fun _ => isMark_of_mem_head?_textFrom)
        (fun _ => isMark_of_mem_head?_textFrom) h
      exact ⟨rfl, hrest⟩
  | index i =>
    cases e' with
    | field name' =>
      rw [head?_entryText_index] at hhead
      exact absurd hhead.symm (head?_entryText_field_ne he' _)
    | index i' =>
      simp only [entryText, String.append_assoc, String.append_right_inj] at h
      have hbracket : ∀ rest : String, ∀ c ∈ ("]" ++ rest).toList.head?, (c == ']') = true := by
        simp
      -- both indices go up to the closing bracket
      obtain ⟨hindex, hrest⟩ := eq_of_string_append_eq (fun _ => beq_bracket_eq_false)
        (fun _ => beq_bracket_eq_false) (hbracket _) (hbracket _) h
      exact ⟨congrArg _ (eq_of_toString_eq hindex), (String.append_right_inj _).mp hrest⟩

/-- A step is never written as nothing. -/
theorem textFrom_cons_ne_empty {first : Bool} {e : PathEntry} (he : e.Plain) (p : FieldPath) :
    textFrom first (e :: p) ≠ "" := by
  cases e with
  | field name => cases first <;> simp [textFrom, entryText, he.1]
  | index i => simp [textFrom, entryText]

theorem eq_of_textFrom_eq {first : Bool} {p p' : FieldPath} (hp : p.Plain) (hp' : p'.Plain)
    (h : p.textFrom first = p'.textFrom first) : p = p' := by
  -- step by step; what is left after a step does not stand first
  induction p generalizing first p' with
  | nil =>
    cases p' with
    | nil => rfl
    | cons e' p' =>
      obtain ⟨he', -⟩ := plain_cons.mp hp'
      exact absurd h.symm (textFrom_cons_ne_empty he' p')
  | cons e p ih =>
    obtain ⟨he, hplain⟩ := plain_cons.mp hp
    cases p' with
    | nil => exact absurd h (textFrom_cons_ne_empty he p)
    | cons e' p' =>
      obtain ⟨he', hplain'⟩ := plain_cons.mp hp'
      obtain ⟨rfl, hrest⟩ := eq_of_entryText_append_eq he he' h
      rw [ih hplain hplain' hrest]

/-- **Two paths with one text are the same path.** -/
theorem eq_of_text_eq {p p' : FieldPath} (hp : p.Plain) (hp' : p'.Plain)
    (h : p.text = p'.text) : p = p' := by
  rw [text_eq_textFrom, text_eq_textFrom] at h
  exact eq_of_textFrom_eq hp hp' h

end FieldPath

end GatewayMigration
