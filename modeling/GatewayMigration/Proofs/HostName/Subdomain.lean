import GatewayMigration.Proofs.HostName.Collisions

/-!
# Generated names are subdomains

Names of objects are subdomains: labels with points between them, each of lower case letters,
digits and dashes, with no dash at either end. From the name of an Ingress and a host that a cluster
admits, the names of routes and listeners are subdomains again.

## Main definitions

* `HostName.IsLabel`, `HostName.IsSubdomain`: the grammar of names
* `HostName.Admissible`: the hosts that a cluster admits

## Main results

* `HostName.isLabel_sanitize`: a subdomain becomes a label
* `HostName.isLabel_objectName`: so does every host that is admitted
* `HostName.isSubdomain_names`: the names that are made from them are subdomains
-/

namespace GatewayMigration.HostName

/-! ### The grammar -/

/-- A lower case letter or a digit. -/
def isAlnumLower (c : Char) : Bool := c.isLower || c.isDigit

/-- A label: lower case letters, digits and dashes, with no dash at either end. -/
structure IsLabel (cs : List Char) : Prop where
  chars : ∀ c ∈ cs, isAlnumLower c = true ∨ c = '-'
  first : ∃ c, cs.head? = some c ∧ isAlnumLower c = true
  last : ∃ c, cs.getLast? = some c ∧ isAlnumLower c = true

/-- A subdomain: labels with points between them. -/
inductive IsSubdomain : List Char → Prop
  | label {label : List Char} : IsLabel label → IsSubdomain label
  | point {label rest : List Char} : IsLabel label → IsSubdomain rest →
    IsSubdomain (label ++ '.' :: rest)

/-- A host that a cluster admits: none or all, a subdomain, or a wildcard before a subdomain. -/
inductive Admissible : String → Prop
  | empty : Admissible ""
  | all : Admissible "*"
  | domain {host : String} : IsSubdomain host.toList → Admissible host
  | wildcard {domain : String} : IsSubdomain domain.toList → Admissible ("*." ++ domain)

instance (cs : List Char) : Decidable (IsLabel cs) :=
  decidable_of_iff ((cs.all fun c => isAlnumLower c || c == '-') = true ∧
      cs.head?.any isAlnumLower = true ∧ cs.getLast?.any isAlnumLower = true) (by
    simp only [List.all_eq_true, Bool.or_eq_true, beq_iff_eq, Option.any_eq_true]
    exact ⟨fun ⟨h, h', h''⟩ => ⟨h, h', h''⟩, fun ⟨h, h', h''⟩ => ⟨h, h', h''⟩⟩)

variable {cs label label' : List Char}

/-- Two labels with a dash between them are a label. -/
theorem IsLabel.dash (h : IsLabel label) (h' : IsLabel label') :
    IsLabel (label ++ '-' :: label') where
  chars c hc := by
    rcases List.mem_append.mp hc with hc | hc
    · exact h.chars c hc
    · rcases List.mem_cons.mp hc with rfl | hc
      · exact .inr rfl
      · exact h'.chars c hc
  first := by
    obtain ⟨c, hc, hfirst⟩ := h.first
    exact ⟨c, by simp [List.head?_append, hc], hfirst⟩
  last := by
    obtain ⟨c, hc, hlast⟩ := h'.last
    exact ⟨c, by simp [List.getLast?_append, List.getLast?_cons, hc], hlast⟩

/-- A subdomain with a dash and a label after it is a subdomain. -/
theorem IsSubdomain.dash (h : IsSubdomain cs) (h' : IsLabel label') :
    IsSubdomain (cs ++ '-' :: label') := by
  induction h with
  | label h => exact .label (h.dash h')
  | @point label rest h _ ih =>
    rw [List.append_assoc, List.cons_append]
    exact .point h ih

/-! ### What a subdomain is made of -/

theorem IsSubdomain.chars (h : IsSubdomain cs) :
    ∀ c ∈ cs, isAlnumLower c = true ∨ c = '-' ∨ c = '.' := by
  induction h with
  | label h => exact fun c hc => (h.chars c hc).imp_right .inl
  | point h _ ih =>
    intro c hc
    rcases List.mem_append.mp hc with hc | hc
    · exact (h.chars c hc).imp_right .inl
    · rcases List.mem_cons.mp hc with rfl | hc
      · exact .inr (.inr rfl)
      · exact ih c hc

theorem IsSubdomain.first (h : IsSubdomain cs) :
    ∃ c, cs.head? = some c ∧ isAlnumLower c = true := by
  cases h with
  | label h => exact h.first
  | point h _ =>
    obtain ⟨c, hc, hfirst⟩ := h.first
    exact ⟨c, by simp [List.head?_append, hc], hfirst⟩

theorem IsSubdomain.last (h : IsSubdomain cs) :
    ∃ c, cs.getLast? = some c ∧ isAlnumLower c = true := by
  induction h with
  | label h => exact h.last
  | point _ _ ih =>
    obtain ⟨c, hc, hlast⟩ := ih
    exact ⟨c, by simp [List.getLast?_append, List.getLast?_cons, hc], hlast⟩

/-! ### Names of hosts -/

theorem isNameChar_of_isAlnumLower {c : Char} (h : isAlnumLower c = true) :
    isNameChar c = true := by
  rcases Bool.or_eq_true_iff.mp h with hlower | hdigit
  · have hletter : c.isAlpha = true := Bool.or_eq_true_iff.mpr (.inr hlower)
    exact Bool.or_eq_true_iff.mpr (.inl hletter)
  · exact Bool.or_eq_true_iff.mpr (.inr hdigit)

/-- A letter or digit at the end stays there. -/
theorem getLast?_dashed {inRun : Bool} {c : Char} (h : cs.getLast? = some c)
    (hc : isNameChar c = true) : (dashed inRun cs).getLast? = some c := by
  induction cs generalizing inRun with
  | nil => cases h
  | cons c' cs ih =>
    by_cases hnil : cs = []
    · subst hnil
      obtain rfl : c' = c := Option.some.inj h
      simp [dashed, hc]
    · rw [List.getLast?_cons_of_ne_nil hnil] at h
      unfold dashed
      split
      · rw [List.getLast?_cons, ih h, Option.getD_some]
      · split
        · exact ih h
        · rw [List.getLast?_cons, ih h, Option.getD_some]

/-- **A subdomain becomes a label.** -/
theorem isLabel_sanitize (h : IsSubdomain cs) : IsLabel (sanitize cs) where
  chars c hc := by
    rcases isNameChar_or_dash_of_mem_dashed hc with rfl | ⟨hmem, hname⟩
    · exact .inr rfl
    · rcases h.chars c hmem with hc | rfl | rfl
      · exact .inl hc
      · cases hname
      · cases hname
  first := by
    obtain ⟨c, hc, hfirst⟩ := h.first
    cases cs with
    | nil => cases hc
    | cons c' cs =>
      obtain rfl := Option.some.inj hc
      exact ⟨c', by simp [sanitize, dashed, isNameChar_of_isAlnumLower hfirst], hfirst⟩
  last := by
    obtain ⟨c, hc, hlast⟩ := h.last
    exact ⟨c, getLast?_dashed hc (isNameChar_of_isAlnumLower hlast), hlast⟩

/-- A host that begins with a letter or digit has no special form. -/
theorem canonical_of_first {host : String} {c : Char} (h : host.toList.head? = some c)
    (hc : isAlnumLower c = true) : canonical host = host.toList := by
  unfold canonical
  generalize host.toList = cs at h
  split
  · cases h
  · cases h
    cases hc
  · cases h
    cases hc
  · rfl

/-- **A host that is admitted becomes a label.** -/
theorem isLabel_objectName {host : String} (h : Admissible host) :
    IsLabel (objectName host).toList := by
  rw [toList_objectName]
  cases h with
  | empty => decide
  | all => decide
  | domain h =>
    obtain ⟨c, hc, hfirst⟩ := h.first
    rw [canonical_of_first hc hfirst]
    exact isLabel_sanitize h
  | wildcard h =>
    rw [canonical_wildcard, sanitize_word_gap (by simp) isNameChar_of_mem_wildcard isNameChar_dash]
    exact .dash (by decide) (isLabel_sanitize h)

theorem isLabel_suffix (protocol : Protocol) : IsLabel protocol.suffix.toList := by
  cases protocol <;> decide

/-- The name of a listener, with its host or without one, is a label. -/
theorem isLabel_listenerName {host : String} (h : Admissible host) (protocol : Protocol) :
    IsLabel (listenerName (some host) protocol).toList := by
  unfold listenerName
  split
  case h_1 => exact isLabel_suffix protocol
  case h_2 => exact isLabel_suffix protocol
  case h_3 host' _ hhost =>
    obtain rfl := Option.some.inj hhost
    rw [String.toList_append, String.toList_append, List.append_assoc]
    exact (isLabel_objectName h).dash (isLabel_suffix protocol)

/-! ### Names of routes and listeners -/

/-- **Generated names are subdomains**, whatever Ingress and host of a cluster they are made
from. -/
theorem isSubdomain_names {ingress host : String} (hingress : IsSubdomain ingress.toList)
    (hhost : Admissible host) (protocol : Protocol) :
    IsSubdomain (routeName ingress host).toList ∧
      IsSubdomain (listenerName (some host) protocol).toList ∧
      IsSubdomain (listenerName none protocol).toList := by
  refine ⟨?_, .label (isLabel_listenerName hhost protocol), .label (isLabel_suffix protocol)⟩
  rw [routeName, String.toList_append, String.toList_append, List.append_assoc]
  exact hingress.dash (isLabel_objectName hhost)

/-- Dashes side by side in a host become one, and the point in the name of an Ingress stays. -/
theorem isSubdomain_names_wildcard :
    IsSubdomain "web.v2".toList ∧ Admissible "*.foo--bar.com" ∧
      routeName "web.v2" "*.foo--bar.com" = "web.v2-wildcard-foo-bar-com" ∧
      IsSubdomain "web.v2-wildcard-foo-bar-com".toList ∧
      IsSubdomain "wildcard-foo-bar-com-https".toList ∧ IsSubdomain "https".toList := by
  have hingress : IsSubdomain "web.v2".toList :=
    @IsSubdomain.point "web".toList "v2".toList (by decide) (.label (by decide))
  have hdomain : IsSubdomain "foo--bar.com".toList :=
    @IsSubdomain.point "foo--bar".toList "com".toList (by decide) (.label (by decide))
  have hhost : Admissible "*.foo--bar.com" := @Admissible.wildcard "foo--bar.com" hdomain
  obtain ⟨hroute, hlistener, hplain⟩ := isSubdomain_names hingress hhost .https
  exact ⟨hingress, hhost, by decide +kernel, hroute, hlistener, hplain⟩

end GatewayMigration.HostName
