import GatewayMigration.HostName
import Mathlib.Data.List.Chain

/-!
# Hosts with one name

The name of a host keeps the words of the host, in order, and whether something else follows the
last of them. All else is lost, so hosts that agree in this have one name and no others do.

## Main definitions

* `HostName.words`: the runs of letters and digits of a text
* `HostName.canonical`: a host with its special forms written out
* `HostName.Naming`: which hosts have one name, and what a name is made of

## Main results

* `HostName.wordInduction`: texts are made of gaps and words
* `HostName.words_sanitize`, `HostName.endsInGap_sanitize`: what is kept of a text
* `HostName.sanitize_eq`: nothing else is kept
* `HostName.toList_objectName`: the name of a host is made from its canonical text
* `HostName.naming_objectName`: hosts have one name just when they have the same words and ending
-/

namespace GatewayMigration.HostName

/-! ### Words and gaps -/

/-- The runs of letters and digits of a text, each as long as can be. -/
def words (cs : List Char) : List (List Char) :=
  (cs.splitOnP fun c => !isNameChar c).filter fun w => !w.isEmpty

/-- The last character is neither a letter nor a digit. -/
def endsInGap (cs : List Char) : Bool := cs.getLast?.any fun c => !isNameChar c

variable {g : Char} {cs w rest : List Char}

@[simp] theorem words_nil : words [] = [] := rfl

theorem words_gap (hg : isNameChar g = false) : words (g :: rest) = words rest := by
  have h : (g :: rest).splitOnP (fun c => !isNameChar c) =
      [] :: rest.splitOnP fun c => !isNameChar c :=
    List.splitOnP_append_cons_of_forall_mem (List.forall_mem_nil _) g (by simp [hg]) rest
  rw [words, h]
  rfl

theorem words_word (hne : w ≠ []) (hw : ∀ c ∈ w, isNameChar c = true) : words w = [w] := by
  rw [words, List.splitOnP_eq_singleton fun c hc => by simp [hw c hc]]
  simp [hne]

theorem words_word_gap (hne : w ≠ []) (hw : ∀ c ∈ w, isNameChar c = true)
    (hg : isNameChar g = false) : words (w ++ g :: rest) = w :: words rest := by
  rw [words, List.splitOnP_append_cons_of_forall_mem (fun c hc => by simp [hw c hc]) g
    (by simp [hg])]
  simp [hne, words]

theorem endsInGap_append (hne : rest ≠ []) : endsInGap (cs ++ rest) = endsInGap rest := by
  rw [endsInGap, endsInGap, List.getLast?_append, List.getLast?_eq_some_getLast hne, Option.some_or]

theorem endsInGap_cons {c : Char} (hne : rest ≠ []) : endsInGap (c :: rest) = endsInGap rest := by
  rw [← List.singleton_append, endsInGap_append hne]

theorem endsInGap_word (hw : ∀ c ∈ w, isNameChar c = true) : endsInGap w = false := by
  cases h : w.getLast? with
  | none => simp [endsInGap, h]
  | some c => simp [endsInGap, h, hw c (List.mem_of_getLast? h)]

/-- **Texts are made of gaps and words**: a property holds of every text if it is kept by a gap,
and by a word with a gap after it, in front of a text. -/
theorem wordInduction {P : List Char → Prop} (nil : P [])
    (gap : ∀ g rest, isNameChar g = false → P rest → P (g :: rest))
    (last : ∀ w, w ≠ [] → (∀ c ∈ w, isNameChar c = true) → P w)
    (word : ∀ w g rest, w ≠ [] → (∀ c ∈ w, isNameChar c = true) → isNameChar g = false →
      P rest → P (w ++ g :: rest)) (cs : List Char) : P cs := by
  -- by induction on what follows the letters that are read already
  suffices h : ∀ w, (∀ c ∈ w, isNameChar c = true) → P (w ++ cs) from h [] (by simp)
  induction cs with
  | nil =>
    intro w hw
    rw [List.append_nil]
    by_cases hne : w = []
    · rwa [hne]
    · exact last w hne hw
  | cons c cs ih =>
    intro w hw
    cases hc : isNameChar c with
    | true =>
      rw [List.append_cons]
      apply ih
      simpa [or_imp, forall_and] using ⟨hw, hc⟩
    | false =>
      by_cases hne : w = []
      · rw [hne]
        exact gap c cs hc (ih [] (by simp))
      · exact word w c cs hne hw hc (ih [] (by simp))

/-- A text without words is a gap. -/
theorem isNameChar_of_words_eq_nil (h : words cs = []) : ∀ c ∈ cs, isNameChar c = false := by
  induction cs using wordInduction with
  | nil => simp
  | gap g rest hg ih =>
    rw [words_gap hg] at h
    exact List.forall_mem_cons.mpr ⟨hg, ih h⟩
  | last w hne hw => simp [words_word hne hw] at h
  | word w g rest hne hw hg ih => simp [words_word_gap hne hw hg] at h

theorem endsInGap_of_words_eq_nil (h : words cs = []) (hne : cs ≠ []) : endsInGap cs = true := by
  rw [endsInGap, List.getLast?_eq_some_getLast hne, Option.any_some,
    isNameChar_of_words_eq_nil h _ (List.getLast_mem hne)]
  rfl

theorem ne_nil_of_words_ne_nil (h : words cs ≠ []) : cs ≠ [] := by
  rintro rfl
  exact h words_nil

/-! ### What is kept of a text -/

@[simp] theorem sanitize_nil : sanitize [] = [] := rfl

theorem sanitize_gap (hg : isNameChar g = false) : sanitize (g :: rest) = sanitize rest := by
  simp [sanitize, dashed, hg]

theorem dashed_word (hw : ∀ c ∈ w, isNameChar c = true) :
    dashed false (w ++ rest) = w ++ dashed false rest := by
  induction w with
  | nil => rfl
  | cons c w ih =>
    obtain ⟨hc, hw⟩ := List.forall_mem_cons.mp hw
    simp [dashed, hc, ih hw]

/-- A word in front ends the gap before it. -/
theorem sanitize_word_append (hne : w ≠ []) (hw : ∀ c ∈ w, isNameChar c = true) :
    sanitize (w ++ rest) = w ++ dashed false rest := by
  rw [← dashed_word hw]
  cases w with
  | nil => exact absurd rfl hne
  | cons c w => simp [sanitize, dashed, hw c (List.mem_cons_self ..)]

theorem sanitize_word (hne : w ≠ []) (hw : ∀ c ∈ w, isNameChar c = true) : sanitize w = w := by
  have h : sanitize (w ++ []) = w ++ dashed false [] := sanitize_word_append hne hw
  simpa [dashed] using h

theorem sanitize_word_gap (hne : w ≠ []) (hw : ∀ c ∈ w, isNameChar c = true)
    (hg : isNameChar g = false) : sanitize (w ++ g :: rest) = w ++ '-' :: sanitize rest := by
  rw [sanitize_word_append hne hw]
  simp [sanitize, dashed, hg]

theorem isNameChar_dash : isNameChar '-' = false := by decide

/-- Words stay as they are. -/
theorem words_sanitize (cs : List Char) : words (sanitize cs) = words cs := by
  induction cs using wordInduction with
  | nil => rfl
  | gap g rest hg ih => rw [sanitize_gap hg, words_gap hg, ih]
  | last w hne hw => rw [sanitize_word hne hw]
  | word w g rest hne hw hg ih =>
    rw [sanitize_word_gap hne hw hg, words_word_gap hne hw isNameChar_dash,
      words_word_gap hne hw hg, ih]

/-- Words with single dashes between them, and perhaps one after the last. -/
def joined (dashAtEnd : Bool) : List (List Char) → List Char
  | [] => []
  | [w] => w ++ if dashAtEnd then ['-'] else []
  | w :: w' :: ws => w ++ '-' :: joined dashAtEnd (w' :: ws)

/-- **Nothing else is kept**: a text becomes its words with single dashes between them, and one at
the end if it ends in a gap. -/
theorem sanitize_eq (cs : List Char) : sanitize cs = joined (endsInGap cs) (words cs) := by
  induction cs using wordInduction with
  | nil => rfl
  | gap g rest hg ih =>
    rw [sanitize_gap hg, words_gap hg, ih]
    by_cases hwords : words rest = []
    · rw [hwords]
      rfl
    · rw [endsInGap_cons (ne_nil_of_words_ne_nil hwords)]
  | last w hne hw => simp [sanitize_word hne hw, words_word hne hw, endsInGap_word hw, joined]
  | word w g rest hne hw hg ih =>
    rw [sanitize_word_gap hne hw hg, words_word_gap hne hw hg, endsInGap_append (by simp), ih]
    cases hwords : words rest with
    | nil =>
      rw [endsInGap_of_words_eq_nil (by rwa [words_gap hg]) (List.cons_ne_nil g rest)]
      rfl
    | cons w' ws =>
      have hrest : rest ≠ [] := ne_nil_of_words_ne_nil (by simp [hwords])
      rw [endsInGap_cons hrest]
      rfl

theorem sanitize_eq_nil_iff : sanitize cs = [] ↔ words cs = [] := by
  constructor
  · intro h
    rw [← words_sanitize, h, words_nil]
  · intro h
    rw [sanitize_eq, h]
    rfl

/-- A gap at the end stays one, if there is a word before it. -/
theorem endsInGap_sanitize (h : words cs ≠ []) : endsInGap (sanitize cs) = endsInGap cs := by
  induction cs using wordInduction with
  | nil => exact absurd words_nil h
  | gap g rest hg ih =>
    rw [words_gap hg] at h
    rw [sanitize_gap hg, ih h, endsInGap_cons (ne_nil_of_words_ne_nil h)]
  | last w hne hw => rw [sanitize_word hne hw]
  | word w g rest hne hw hg ih =>
    rw [sanitize_word_gap hne hw hg, endsInGap_append (by simp), endsInGap_append (by simp)]
    by_cases hwords : words rest = []
    · -- the gap is all that follows the word
      rw [sanitize_eq_nil_iff.mpr hwords,
        endsInGap_of_words_eq_nil (by rwa [words_gap hg]) (List.cons_ne_nil g rest)]
      rfl
    · have hsanitize : sanitize rest ≠ [] := by rwa [ne_eq, sanitize_eq_nil_iff]
      rw [endsInGap_cons hsanitize, ih hwords,
        endsInGap_cons (ne_nil_of_words_ne_nil hwords)]

/-- Two texts become the same just when they have the same words and, if there are any, both or
neither end in a gap. -/
theorem sanitize_eq_sanitize_iff {cs cs' : List Char} : sanitize cs = sanitize cs' ↔
    words cs = words cs' ∧ (words cs ≠ [] → endsInGap cs = endsInGap cs') := by
  constructor
  · intro h
    have hwords : words cs = words cs' := by rw [← words_sanitize, h, words_sanitize]
    refine ⟨hwords, fun hne => ?_⟩
    rw [← endsInGap_sanitize hne, h, endsInGap_sanitize (hwords ▸ hne)]
  · rintro ⟨hwords, hends⟩
    rw [sanitize_eq, sanitize_eq, ← hwords]
    by_cases hne : words cs = []
    · rw [hne]
      rfl
    · rw [hends hne]

/-! ### What a text becomes -/

theorem isNameChar_or_dash_of_mem_dashed {inRun : Bool} {c : Char} (h : c ∈ dashed inRun cs) :
    c = '-' ∨ c ∈ cs ∧ isNameChar c = true := by
  induction cs generalizing inRun with
  | nil => cases h
  | cons c' cs ih =>
    have hrest {b : Bool} (h : c ∈ dashed b cs) : c = '-' ∨ c ∈ c' :: cs ∧ isNameChar c = true :=
      (ih h).imp_right (And.imp_left (List.mem_cons_of_mem _))
    unfold dashed at h
    split at h
    case isTrue hc =>
      rcases List.mem_cons.mp h with rfl | h
      · exact .inr ⟨List.mem_cons_self .., hc⟩
      · exact hrest h
    case isFalse =>
      split at h
      · exact hrest h
      · rcases List.mem_cons.mp h with rfl | h
        · exact .inl rfl
        · exact hrest h

/-- A run that began before the first character leaves no dash. -/
theorem head?_sanitize_ne (cs : List Char) : (sanitize cs).head? ≠ some '-' := by
  induction cs with
  | nil => simp
  | cons c cs ih =>
    cases hc : isNameChar c with
    | false => rwa [sanitize_gap hc]
    | true =>
      have hne : c ≠ '-' := by
        rintro rfl
        cases hc
      simp [sanitize, dashed, hc, hne]

/-- No two dashes stand side by side. -/
theorem isChain_dashed (inRun : Bool) (cs : List Char) :
    (dashed inRun cs).IsChain fun c c' => ¬(c = '-' ∧ c' = '-') := by
  induction cs generalizing inRun with
  | nil => exact .nil
  | cons c cs ih =>
    unfold dashed
    split
    case isTrue hc =>
      refine List.isChain_cons.mpr ⟨?_, ih false⟩
      rintro _ - ⟨rfl, -⟩
      cases hc
    case isFalse =>
      split
      · exact ih true
      · refine List.isChain_cons.mpr ⟨?_, ih true⟩
        rintro _ hhead ⟨-, rfl⟩
        exact head?_sanitize_ne cs hhead

/-! ### Hosts -/

/-- A host with its special forms written out. -/
def canonical (host : String) : List Char :=
  match host.toList with
  | [] | ['*'] => "all-hosts".toList
  | '*' :: '.' :: domain => "wildcard-".toList ++ domain
  | cs => cs

/-- A host without a special form stays as it is. -/
theorem canonical_of_plain {host : String} (hempty : host.toList ≠ []) (hall : host.toList ≠ ['*'])
    (hwildcard : ∀ domain, host.toList ≠ '*' :: '.' :: domain) : canonical host = host.toList := by
  unfold canonical
  split
  case h_1 heq => exact absurd heq hempty
  case h_2 heq => exact absurd heq hall
  case h_3 heq => exact absurd heq (hwildcard _)
  case h_4 => rfl

/-- **The name of a host is made from its canonical text.** -/
theorem toList_objectName (host : String) :
    (objectName host).toList = sanitize (canonical host) := by
  unfold objectName
  split
  case h_1 heq => rw [canonical, heq]; rfl
  case h_2 heq => rw [canonical, heq]; rfl
  case h_3 heq =>
    rw [canonical, heq]
    simp only [String.toList_append, String.toList_ofList]
    rfl
  case h_4 hempty hall hwildcard =>
    rw [canonical_of_plain hempty hall hwildcard, String.toList_ofList]

theorem isNameChar_of_mem_wildcard : ∀ c ∈ "wildcard".toList, isNameChar c = true :=
  List.all_eq_true.mp rfl

theorem canonical_wildcard (host : String) :
    canonical ("*." ++ host) = "wildcard".toList ++ '-' :: host.toList := by
  rw [canonical, String.toList_append]
  rfl

/-- A host with a wildcard before it has another name, unless it begins with a wildcard itself. -/
theorem objectName_ne_wildcard {host : String} (h : ¬['*', '.'] <+: host.toList) :
    objectName host ≠ objectName ("*." ++ host) := by
  intro heq
  have hwords : words (canonical host) = "wildcard".toList :: words host.toList := by
    rw [← words_sanitize, ← toList_objectName, heq, toList_objectName, words_sanitize,
      canonical_wildcard, words_word_gap (by simp) isNameChar_of_mem_wildcard isNameChar_dash]
  unfold canonical at hwords
  generalize host.toList = cs at h hwords
  split at hwords
  · exact absurd hwords (by decide)
  · exact absurd hwords (by decide)
  · exact h ⟨_, rfl⟩
  · -- a list is not its own tail
    exact List.cons_ne_self _ _ hwords.symm

/-- Which hosts have one name, and what names are made of. -/
structure Naming (name : String → String) : Prop where
  /-- Hosts have one name just when their canonical texts have the same words and, if there are any,
  both or neither end in a gap. -/
  collides_iff : ∀ host host', name host = name host' ↔
    words (canonical host) = words (canonical host') ∧
      (words (canonical host) ≠ [] → endsInGap (canonical host) = endsInGap (canonical host'))
  chars : ∀ host, ∀ c ∈ (name host).toList, isNameChar c = true ∨ c = '-'
  /-- No two dashes stand side by side. -/
  single : ∀ host, (name host).toList.IsChain fun c c' => ¬(c = '-' ∧ c' = '-')
  first : ∀ host, (name host).toList.head? ≠ some '-'
  /-- A host has another name with a wildcard before it, unless it begins with one itself. -/
  wildcard : ∀ host, ¬['*', '.'] <+: host.toList → name host ≠ name ("*." ++ host)

/-- **Hosts have one name just when they have the same words and ending**, whatever characters stand
between the words. -/
theorem naming_objectName : Naming objectName where
  collides_iff host host' := by
    rw [← String.toList_inj, toList_objectName, toList_objectName, sanitize_eq_sanitize_iff]
  chars host c hc := by
    rw [toList_objectName] at hc
    exact (isNameChar_or_dash_of_mem_dashed hc).symm.imp_left And.right
  single host := by
    rw [toList_objectName]
    exact isChain_dashed true _
  first host := by
    rw [toList_objectName]
    exact head?_sanitize_ne _
  wildcard _ := objectName_ne_wildcard

/-- Points and dashes are all gaps, and a wildcard stands for the word `wildcard`. -/
example : objectName "*.foo..com" = objectName "wildcard-foo-é.com" ∧
    objectName "foo.com" ≠ objectName "foo.com." := by
  decide +kernel

end GatewayMigration.HostName
