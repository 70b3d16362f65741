import GatewayMigration.Proofs.Conversion.Settlement
import GatewayMigration.Proofs.FieldError.Text
import GatewayMigration.Proofs.RuleGroup.Paths

/-!
# The paths of the errors of a conversion

Every error of a conversion is at a field whose names are plain, so the text of its path says where
it is. Two errors at different rules, or at different paths of rules, can always be told apart by
what the user reads.

## Main definitions

* `Ingress.ruleField`: the field of a rule
* `FieldError.TellsIndices`: errors at different rules or paths are told apart by their texts

## Main results

* `Conversion.plain_of_mem_errors`: the errors of a conversion are at plain fields
* `Conversion.tellsIndices_errors`: the errors of a conversion are told apart by their texts
* `unambiguous_text`: texts of paths, for all paths, all errors and all conversions
-/

namespace GatewayMigration

/-! ### The fields of errors -/

/-- A Service is refused for its port, or for the name or the number of the port. -/
theorem IngressService.path_of_error {s : IngressService} {e : FieldError}
    (h : s.toBackendRef = .error e) :
    e.path = servicePortPath ∨ e.path = servicePortPath ++ [.field "name"] ∨
      e.path = servicePortPath ++ [.field "number"] := by
  unfold toBackendRef at h
  grind [FieldError.here, FieldError.under]

theorem IngressBackend.plain_of_error {b : IngressBackend} {e : FieldError}
    (h : b.toBackendRef = .error e) : e.path.Plain := by
  unfold toBackendRef at h
  split at h
  case h_1 =>
    rcases IngressService.path_of_error h with hpath | hpath | hpath <;>
      simp [hpath, servicePortPath]
  case h_2 => cases h
  case h_3 =>
    cases h
    exact FieldPath.plain_nil

namespace IngressPath

variable {options : ConversionOptions} {p : IngressPath} {e : FieldError}

/-- A path without a match is refused for its type. -/
theorem path_of_toPathMatch_error (h : p.toPathMatch options = .error e) :
    e.path = [.field "pathType"] := by
  unfold toPathMatch at h
  grind [FieldError.here, FieldError.under, FieldError.inField]

theorem plain_of_error (h : p.convert options = .error e) : e.path.Plain := by
  unfold convert at h
  cases hm : p.toPathMatch options with
  | error cause =>
    rw [hm] at h
    cases h
    simp [path_of_toPathMatch_error hm]
  | ok m =>
    cases hb : p.backend.toBackendRef with
    | error cause =>
      rw [hm, hb] at h
      cases h
      simp [IngressBackend.plain_of_error hb]
    | ok b =>
      rw [hm, hb] at h
      cases h

end IngressPath

/-- The errors of an Ingress are at plain fields. -/
theorem Ingress.plain_of_mem_fieldErrors {options : ConversionOptions} {i : Ingress}
    {e : FieldError} (he : e ∈ i.fieldErrors options) : e.path.Plain := by
  rw [fieldErrors_eq, List.mem_append] at he
  rcases he with he | he
  · -- an error of a path
    obtain ⟨p, -, he⟩ := List.mem_filterMap.mp he
    obtain ⟨cause, hcause, rfl⟩ := PathSite.error?_eq_some_iff.mp he
    simp [PathSite.field, pathField, IngressPath.plain_of_error hcause]
  · -- an error of the default backend
    obtain ⟨b, -, cause, hcause, rfl⟩ := defaultError?_eq_some_iff.mp (Option.mem_toList.mp he)
    simp [defaultBackendPath, IngressBackend.plain_of_error hcause]

/-- **The errors of a conversion are at plain fields.** -/
theorem Conversion.plain_of_mem_errors {options : ConversionOptions} {ingresses : List Ingress}
    {e : FieldError} (he : e ∈ (convert options ingresses).2) : e.path.Plain := by
  rw [errors_convert, List.mem_append, List.mem_append] at he
  rcases he with he | he | he
  · obtain ⟨i, -, he⟩ := List.mem_flatMap.mp he
    exact Ingress.plain_of_mem_fieldErrors he
  · -- a group that is reported
    obtain ⟨r, -, rfl⟩ := List.mem_map.mp he
    simp [KeyedGroup.report, FieldError.here]
  · -- a default backend whose route name is taken
    obtain ⟨b, -, rfl⟩ := List.mem_map.mp he
    simp [DefaultRoute.report, FieldError.here, Ingress.defaultBackendPath]

/-! ### Errors at different indices -/

/-- The field of a rule. -/
def Ingress.ruleField (rule : Nat) : FieldPath := [.field "spec", .field "rules", .index rule]

namespace FieldError

/-- Errors at different rules, or at different paths of rules, are told apart by the texts of their
paths. -/
structure TellsIndices (errors : List FieldError) : Prop where
  rules : ∀ e ∈ errors, ∀ e' ∈ errors, ∀ i i', i ≠ i' →
    Ingress.ruleField i <+: e.path → Ingress.ruleField i' <+: e'.path →
      e.path.text ≠ e'.path.text
  paths : ∀ e ∈ errors, ∀ e' ∈ errors, ∀ i i' j j', (i, j) ≠ (i', j') →
    Ingress.pathField i j <+: e.path → Ingress.pathField i' j' <+: e'.path →
      e.path.text ≠ e'.path.text

/-- Errors below two different fields that are as long as each other have different texts. -/
theorem text_ne_of_prefix {e e' : FieldError} (he : e.path.Plain) (he' : e'.path.Plain)
    {field field' : FieldPath} (hfield : field <+: e.path) (hfield' : field' <+: e'.path)
    (hlength : field.length = field'.length) (hne : field ≠ field') :
    e.path.text ≠ e'.path.text := by
  intro htext
  rw [FieldPath.eq_of_text_eq he he' htext] at hfield
  -- of two prefixes of one path, the shorter one is a prefix of the other one
  have hshort := List.prefix_of_prefix_length_le hfield hfield' (Nat.le_of_eq hlength)
  exact hne (hshort.eq_of_length hlength)

end FieldError

/-- **The errors of a conversion are told apart** by the texts of their paths. -/
theorem Conversion.tellsIndices_errors (options : ConversionOptions) (ingresses : List Ingress) :
    FieldError.TellsIndices (convert options ingresses).2 where
  rules := by
    intro e he e' he' i i' hne hfield hfield'
    refine FieldError.text_ne_of_prefix (plain_of_mem_errors he) (plain_of_mem_errors he') hfield
      hfield' rfl ?_
    simpa [Ingress.ruleField] using hne
  paths := by
    intro e he e' he' i i' j j' hne hfield hfield'
    refine FieldError.text_ne_of_prefix (plain_of_mem_errors he) (plain_of_mem_errors he') hfield
      hfield' rfl ?_
    simpa [Ingress.pathField] using hne

/-- **Texts of paths are unambiguous.** Two paths with plain names have different texts, an error
that is seen from one level further out has one more step before its text, and the errors of a
conversion at different indices are told apart. -/
theorem unambiguous_text :
    (∀ p p' : FieldPath, p.Plain → p'.Plain → p ≠ p' → p.text ≠ p'.text) ∧
      (∀ (e : FieldError) (name : String),
        (e.inField name).path.text = name ++ e.path.joint ++ e.path.text) ∧
      (∀ (e : FieldError) (i : Nat),
        (e.atIndex i).path.text = "[" ++ toString i ++ "]" ++ e.path.joint ++ e.path.text) ∧
      ∀ (options : ConversionOptions) (ingresses : List Ingress),
        FieldError.TellsIndices (convert options ingresses).2 := by
  refine ⟨?_, ?_, ?_, Conversion.tellsIndices_errors⟩
  · intro p p' hp hp' hne htext
    exact hne (FieldPath.eq_of_text_eq hp hp' htext)
  · intro e name
    exact FieldPath.text_cons (.field name) e.path
  · intro e i
    exact FieldPath.text_cons (.index i) e.path

end GatewayMigration
