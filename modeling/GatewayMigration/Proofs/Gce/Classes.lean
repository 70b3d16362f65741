import GatewayMigration.Proofs.Cluster
import GatewayMigration.Proofs.Conversion.Accounting
import GatewayMigration.Proofs.Conversion.Extensionality
import GatewayMigration.Proofs.Conversion.Namespace
import GatewayMigration.Proofs.Gce.Reading
import GatewayMigration.Proofs.Gce.Routing

/-!
# The classes that are converted

The class of an Ingress is worked out where Ingresses are read, where their rules are grouped, where
Gateways get the class of the controller, and where SSL policies are set. It is the same class in
each place. Only Ingresses of the two classes that the controller has are read, so no Gateway of
another class is made and none is taken away.

## Main definitions

* `Session.Yields`: what a session gives, whatever the server answers
* `Gce.classFrom`: the ingress class, from what the specification and the annotation say
* `Gce.Classed`: all that goes by the class of an Ingress
* `Gce.Supported`: setting classes takes nothing away, and every Gateway has one of two classes

## Main results

* `Gce.exists_lists_of_read`: what is read from a source is made from lists of objects
* `Conversion.exists_ingress_of_mem_gatewayNames`: a Gateway is that of the class of an Ingress
* `Gce.supported_of_read`: all that is read is supported
-/

namespace GatewayMigration

/-! ### Sessions -/

namespace Session

variable {α β : Type}

/-- What a session gives passes a test, whatever the server answers and whatever requests were made
before. -/
def Yields (s : Session α) (P : α → Prop) : Prop :=
  ∀ server log a log', (ReaderT.run s server).run.run log = (.ok a, log') → P a

theorem Yields.pure {a : α} {P : α → Prop} (h : P a) : Yields (pure a : Session α) P := by
  intro server log a' log' hrun
  cases hrun
  exact h

/-- Only the last step of a session says what it gives. -/
theorem Yields.bind {s : Session α} {f : α → Session β} {P : β → Prop}
    (h : ∀ a, (f a).Yields P) : Yields (s >>= f) P := by
  intro server log b log' hrun
  have hrun : (s >>= f).runFrom server log = (.ok b, log') := hrun
  rw [runFrom_bind] at hrun
  rcases hs : s.runFrom server log with ⟨⟨e⟩ | ⟨a⟩, log₁⟩
  · -- a failure ends the session
    rw [hs] at hrun
    cases hrun
  · rw [hs] at hrun
    exact h a server log₁ b log' hrun

end Session

/-! ### Gateways and classes -/

namespace Conversion

variable {options : ConversionOptions} {ingresses : List Ingress}

theorem gateway_of_mem_sites {i : Ingress} {s : RuleSite} (h : s ∈ i.sites options) :
    s.key.gateway = ⟨i.objectName.ns, i.conversionClass options⟩ := by
  obtain ⟨n, _, rfl⟩ := List.mem_mapIdx.mp h
  rfl

theorem gateway_of_defaultRoute? {i : Ingress} {b : DefaultRoute}
    (h : i.defaultRoute? options = some b) :
    b.gateway = ⟨i.objectName.ns, i.conversionClass options⟩ := by
  rw [Ingress.eq_of_defaultRoute? options h]
  rfl

/-- **A Gateway is that of the class of an Ingress**, whether a rule asks for it or a default
backend. -/
theorem exists_ingress_of_mem_gatewayNames {name : ObjectName}
    (h : name ∈ gatewayNames options ingresses) :
    ∃ i ∈ ingresses, name = ⟨i.objectName.ns, i.conversionClass options⟩ := by
  rcases List.mem_append.mp h with h | h
  · -- the Gateway of a group is that of its first rule
    obtain ⟨e, he, rfl⟩ := List.mem_map.mp h
    obtain ⟨s, hs, -, -⟩ := RuleGroup.exists_first_of_ofSites (mem_groups_iff.mp he)
    have hkey : s.key = e.1 := by simpa using List.find?_some hs
    obtain ⟨i, hi, hsi⟩ := List.mem_flatMap.mp (List.mem_of_find?_eq_some hs)
    rw [KeyedGroup.gateway, ← hkey]
    exact ⟨i, hi, gateway_of_mem_sites hsi⟩
  · obtain ⟨b, hb, rfl⟩ := List.mem_map.mp h
    have hmem : b ∈ defaultRoutes options ingresses :=
      (DefaultRoute.perm_placed_refused _ _).mem_iff.mp (List.mem_append_left _ hb)
    obtain ⟨i, hi, hbi⟩ := List.mem_filterMap.mp hmem
    exact ⟨i, hi, gateway_of_defaultRoute? hbi⟩

/-- What no listener changes is the same for a Gateway of a conversion as for a new one of its
class. -/
theorem apply_of_find?_gateways {β : Type} {f : Gateway → β}
    (hstep : ∀ g l, f (g.addListener l) = f g) {name : ObjectName} {g : Gateway}
    (h : (convert options ingresses).1.gateways.find? name = some g) :
    name ∈ gatewayNames options ingresses ∧ f g = f (.ofClass name.name) := by
  rw [find?_gateways_convert] at h
  split at h
  case isFalse => cases h
  case isTrue hname =>
    refine ⟨hname, ?_⟩
    rw [← Option.some.inj h]
    exact apply_foldl_eq hstep _ _

/-- A Gateway of a conversion is named after its class. -/
theorem className_of_find?_gateways {name : ObjectName} {g : Gateway}
    (h : (convert options ingresses).1.gateways.find? name = some g) :
    name ∈ gatewayNames options ingresses ∧ g.className = name.name := by
  have hstep : ∀ (g : Gateway) l, (g.addListener l).className = g.className := by
    intro g l
    unfold Gateway.addListener
    split <;> rfl
  exact apply_of_find?_gateways hstep h

end Conversion

namespace Gce

/-! ### What is read -/

/-- **What is read from a source** is made from lists of objects. -/
theorem exists_lists_of_read {ns : Option String} {source : Source} {inventory : Inventory}
    {requests : List String} (h : provider.read ns source = (.ok inventory, requests)) :
    ∃ ingresses services backendConfigs betaBackendConfigs frontendConfigs,
      inventory = .ofLists ingresses services backendConfigs betaBackendConfigs
        frontendConfigs := by
  cases source with
  | manifest documents =>
    -- the types are decoded one after the other
    have hread : documents.bind (Inventory.ofDocuments ns) = .ok inventory := congrArg Prod.fst h
    obtain ⟨docs, -, hdocs⟩ := Except.bind_eq_ok hread
    obtain ⟨ingresses, -, h₁⟩ := Except.bind_eq_ok hdocs
    obtain ⟨services, -, h₂⟩ := Except.bind_eq_ok h₁
    obtain ⟨backendConfigs, -, h₃⟩ := Except.bind_eq_ok h₂
    obtain ⟨betaBackendConfigs, -, h₄⟩ := Except.bind_eq_ok h₃
    obtain ⟨frontendConfigs, -, h₅⟩ := Except.bind_eq_ok h₄
    exact ⟨_, _, _, _, _, (Except.ok.inj h₅).symm⟩
  | cluster server =>
    -- the types are listed one after the other
    have hyields : (Inventory.ofCluster ns).Yields fun inventory =>
        ∃ ingresses services backendConfigs betaBackendConfigs frontendConfigs,
          inventory = .ofLists ingresses services backendConfigs betaBackendConfigs
            frontendConfigs := by
      apply Session.Yields.bind; intro ingresses
      apply Session.Yields.bind; intro services
      apply Session.Yields.bind; intro backendConfigs
      apply Session.Yields.bind; intro betaBackendConfigs
      apply Session.Yields.bind; intro frontendConfigs
      exact .pure ⟨ingresses, services, backendConfigs, betaBackendConfigs, frontendConfigs, rfl⟩
    exact hyields server [] inventory requests h

/-- Every Ingress that is read has a class that the controller has. -/
theorem isOurs_of_read {ns : Option String} {source : Source} {inventory : Inventory}
    {requests : List String} (h : provider.read ns source = (.ok inventory, requests)) {i : Ingress}
    (hi : i ∈ inventory.ingresses.values) : isOurs i = true := by
  obtain ⟨ingresses, _, _, _, _, rfl⟩ := exists_lists_of_read h
  obtain ⟨e, he, rfl⟩ := List.mem_map.mp hi
  obtain ⟨i, hours, rfl⟩ := List.mem_map.mp (OrderedMap.mem_of_mem_ofList he)
  exact List.of_mem_filter hours

/-! ### The class of an Ingress -/

/-- The ingress class, from what the specification and the annotation say: the specification counts
first, an empty text says nothing, and who says nothing means external load balancers. -/
def classFrom (specified annotated : Option String) : String :=
  if specified.getD "" ≠ "" then specified.getD ""
  else if annotated.getD "" ≠ "" then annotated.getD ""
  else externalClass

theorem classFrom_eq (specified annotated : Option String) :
    classFrom specified annotated =
      ((Ingress.nonempty? specified).or (Ingress.nonempty? annotated)).getD externalClass := by
  have hnonempty : ∀ text : Option String, Ingress.nonempty? text =
      if text.getD "" ≠ "" then some (text.getD "") else none := by
    intro text
    cases text with
    | none => rfl
    | some text => by_cases htext : text = "" <;> simp [Ingress.nonempty?, Option.filter, htext]
  unfold classFrom
  rw [hnonempty, hnonempty]
  by_cases hspecified : specified.getD "" = "" <;> by_cases hannotated : annotated.getD "" = "" <;>
    simp [hspecified, hannotated]

/-- The ingress class of an Ingress. -/
def classOf (i : Ingress) : String :=
  classFrom (i.spec.bind (·.className)) (i.metadata.annotation? Ingress.classAnnotation)

/-- All that goes by the class of an Ingress goes by one class. -/
structure Classed (i : Ingress) (ingressClass : String) : Prop where
  /-- The Ingress is read if the class is one of two. -/
  admitted : isOurs i = true ↔ ingressClass = externalClass ∨ ingressClass = internalClass
  /-- It is read just when the controller has a class for it. -/
  supported : isOurs i = true ↔ (gatewayClass? ingressClass).isSome
  /-- Its rules are grouped by the class. -/
  grouped : ∀ s ∈ i.sites options, s.key.gateway = ⟨i.objectName.ns, ingressClass⟩
  /-- Its default backend is placed on the Gateway of the class. -/
  placed : ∀ b, i.defaultRoute? options = some b → b.gateway = ⟨i.objectName.ns, ingressClass⟩
  /-- The Gateway of the class is looked up to report it, and to set the SSL policy. -/
  lookedUp : gatewayOf i = ⟨i.objectName.ns, ingressClass⟩

theorem className?_eq (i : Ingress) : i.className?.getD externalClass = classOf i :=
  (classFrom_eq _ _).symm

theorem conversionClass_eq (i : Ingress) : i.conversionClass options = classOf i := by
  rw [← className?_eq]
  unfold Ingress.conversionClass
  cases i.className? <;> rfl

theorem isOurs_iff (i : Ingress) :
    isOurs i = true ↔ classOf i = externalClass ∨ classOf i = internalClass := by
  rw [← className?_eq]
  unfold isOurs
  cases i.className? <;> simp

theorem gatewayClass?_isSome_iff (ingressClass : String) :
    (gatewayClass? ingressClass).isSome ↔
      ingressClass = externalClass ∨ ingressClass = internalClass := by
  unfold gatewayClass?
  split
  case isTrue h => simp [h]
  case isFalse he =>
    split
    case isTrue h => simp [h]
    case isFalse hi => simp [he, hi]

/-- **An Ingress has one class**, whatever its specification and its annotation say. -/
theorem classed (i : Ingress) : Classed i (classOf i) where
  admitted := isOurs_iff i
  supported := (isOurs_iff i).trans (gatewayClass?_isSome_iff _).symm
  grouped s hs := by
    rw [Conversion.gateway_of_mem_sites hs, conversionClass_eq]
  placed b hb := by
    rw [Conversion.gateway_of_defaultRoute? hb, conversionClass_eq]
  lookedUp := congrArg (ObjectName.mk i.objectName.ns) (className?_eq i)

/-! ### Setting classes -/

section Setting

variable {ingresses : List Ingress} {t : Topology}

/-- Where every Ingress is one that is read, there is no Gateway of another class. -/
theorem unsupported_convert (h : ∀ i ∈ ingresses, isOurs i = true) :
    unsupported (GatewayMigration.convert options ingresses).1 = [] := by
  apply List.map_eq_nil_iff.mpr
  apply List.filter_eq_nil_iff.mpr
  intro ⟨name, g⟩ he hnone
  obtain ⟨hname, hclass⟩ :=
    Conversion.className_of_find?_gateways (OrderedMap.find?_eq_some_iff.mpr he)
  obtain ⟨i, hi, rfl⟩ := Conversion.exists_ingress_of_mem_gatewayNames hname
  -- the class of the Gateway is that of an Ingress, and the controller has it
  have hsome : (gatewayClass? g.className).isSome := by
    rw [hclass, conversionClass_eq]
    exact (classed i).supported.mp (h i hi)
  rw [Option.isNone_iff_eq_none.mp hnone] at hsome
  cases hsome

theorem isSome_gatewayClass? (h : unsupported t = []) {name : ObjectName} {g : Gateway}
    (hg : t.gateways.find? name = some g) : (gatewayClass? g.className).isSome = true := by
  have hkept := List.filter_eq_nil_iff.mp (List.map_eq_nil_iff.mp h) _
    (OrderedMap.find?_eq_some_iff.mp hg)
  simpa [Option.isSome_iff_ne_none] using hkept

theorem find?_setClasses (h : unsupported t = []) (name : ObjectName) :
    (setClasses ingresses t).1.gateways.find? name = (t.gateways.find? name).map fun g =>
      { g with className := (gatewayClass? g.className).getD g.className } := by
  rw [find?_gateways_setClasses, h, if_neg List.not_mem_nil]

theorem httpRoutes_setClasses (h : unsupported t = []) :
    (setClasses ingresses t).1.httpRoutes = t.httpRoutes := by
  apply OrderedMap.ext_perm
  apply List.Perm.of_eq
  show t.httpRoutes.entries.filter _ = _
  rw [h]
  apply List.filter_eq_self.mpr
  intro e _
  simp

theorem errors_setClasses (h : unsupported t = []) : (setClasses ingresses t).2 = [] := by
  unfold setClasses
  rw [h]
  exact List.filterMap_eq_nil_iff.mpr fun i _ => rfl

end Setting

/-! ### Conversions -/

/-- The conversion of what was read, before classes are set. -/
def routed (inventory : Inventory) : Topology × List FieldError :=
  GatewayMigration.convert options inventory.ingresses.values

/-- Setting classes takes nothing away from the conversion of what was read, and every Gateway has
one of two classes. -/
structure Supported (inventory : Inventory) : Prop where
  /-- Every Gateway stays, with its listeners. -/
  gateways : ∀ name,
    ((setClasses inventory.ingresses.values (routed inventory).1).1.gateways.find? name).map
        (·.listeners) =
      ((routed inventory).1.gateways.find? name).map (·.listeners)
  /-- Every route stays. -/
  httpRoutes : (setClasses inventory.ingresses.values (routed inventory).1).1.httpRoutes =
    (routed inventory).1.httpRoutes
  /-- No class is reported. -/
  reported : (setClasses inventory.ingresses.values (routed inventory).1).2 = []
  /-- So the errors are those of the conversion before. -/
  errors : (convert inventory).2.1 = (routed inventory).2
  /-- A Gateway is named after one of the two classes, and has the class of the controller. -/
  classes : ∀ name g, (convert inventory).1.gateways.find? name = some g →
    name.name = "gce" ∧ g.className = "gke-l7-global-external-managed" ∨
      name.name = "gce-internal" ∧ g.className = "gke-l7-rilb"

/-- The class of a Gateway is that of the controller for the class that it is named after. -/
theorem gatewayClass?_of_find? {inventory : Inventory}
    (h : unsupported (routed inventory).1 = []) {name : ObjectName} {g : Gateway}
    (hg : (convert inventory).1.gateways.find? name = some g) :
    gatewayClass? name.name = some g.className := by
  have hsame : ((convert inventory).1.gateways.find? name).map Gateway.routing =
      ((setClasses inventory.ingresses.values (routed inventory).1).1.gateways.find? name).map
        Gateway.routing := (sameRouting_convert inventory).gateways name
  rw [hg, find?_setClasses h] at hsame
  cases hg' : (routed inventory).1.gateways.find? name with
  | none =>
    -- no Gateway is new
    rw [hg'] at hsame
    cases hsame
  | some g' =>
    obtain ⟨-, hname⟩ := Conversion.className_of_find?_gateways hg'
    obtain ⟨c, hc⟩ := Option.isSome_iff_exists.mp (isSome_gatewayClass? h hg')
    rw [hg'] at hsame
    have hclass : g.className = (gatewayClass? g'.className).getD g'.className :=
      congrArg Prod.fst (Option.some.inj hsame)
    rw [hclass, ← hname, hc]
    rfl

theorem supported_of_isOurs {inventory : Inventory}
    (h : ∀ i ∈ inventory.ingresses.values, isOurs i = true) : Supported inventory := by
  have hnone : unsupported (routed inventory).1 = [] := unsupported_convert h
  constructor
  case gateways =>
    intro name
    rw [find?_setClasses hnone, Option.map_map]
    rfl
  case httpRoutes => exact httpRoutes_setClasses hnone
  case reported => exact errors_setClasses hnone
  case errors =>
    have herrors : (convert inventory).2.1 = (routed inventory).2 ++
        (setClasses inventory.ingresses.values (routed inventory).1).2 := rfl
    rw [herrors, errors_setClasses hnone, List.append_nil]
  case classes =>
    intro name g hg
    have hclass := gatewayClass?_of_find? hnone hg
    unfold gatewayClass? at hclass
    split at hclass
    case isTrue hname => exact .inl ⟨hname, (Option.some.inj hclass).symm⟩
    case isFalse =>
      split at hclass
      case isTrue hname => exact .inr ⟨hname, (Option.some.inj hclass).symm⟩
      case isFalse => cases hclass

/-- **All that is read is supported**, from a manifest or from a cluster, and every Ingress has one
class wherever its class is asked for. -/
theorem supported_of_read {ns : Option String} {source : Source} {inventory : Inventory}
    {requests : List String} (h : provider.read ns source = (.ok inventory, requests)) :
    Supported inventory ∧ ∀ i : Ingress, Classed i (classOf i) :=
  ⟨supported_of_isOurs fun _ => isOurs_of_read h, classed⟩

/-- The document of an Ingress with an ingress class and an annotation, and a default backend. -/
def classedIngress (name specified annotated : String) : Json :=
  .obj [("apiVersion", .str "networking.k8s.io/v1"), ("kind", .str "Ingress"),
    ("metadata", .obj [
      ("annotations", .obj [(Ingress.classAnnotation, .str annotated)]),
      ("name", .str name), ("namespace", .str "default")]),
    ("spec", .obj [
      ("defaultBackend", .obj [("service", .obj [
        ("name", .str name), ("port", .obj [("number", .int 80)])])]),
      ("ingressClassName", .str specified)])]

/-- Classes of all sorts: none, one in the annotation only, and two that differ. -/
def assortedClasses : List Json :=
  [classedIngress "web" "" "", classedIngress "api" "" "gce-internal",
    classedIngress "shop" "nginx" "gce"]

theorem supported_of_read_assortedClasses :
    provider.read none (.manifest (.ok assortedClasses)) =
        (.ok (.ofObjects none assortedClasses), []) ∧
      Supported (.ofObjects none assortedClasses) ∧ (∀ i : Ingress, Classed i (classOf i)) ∧
      (convert (.ofObjects none assortedClasses)).1.gateways.entries.map
          (fun e => (e.1.name, e.2.className)) =
        [("gce", "gke-l7-global-external-managed"), ("gce-internal", "gke-l7-rilb")] := by
  have hreadable : Readable assortedClasses := by constructor <;> decide +kernel
  have hread : provider.read none (.manifest (.ok assortedClasses)) =
      (.ok (.ofObjects none assortedClasses), []) :=
    congrArg (·, []) (ofDocuments_eq hreadable none)
  obtain ⟨hsupported, hclassed⟩ := supported_of_read hread
  exact ⟨hread, hsupported, hclassed, by decide +kernel⟩

end Gce

end GatewayMigration
