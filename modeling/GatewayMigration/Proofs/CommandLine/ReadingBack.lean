import GatewayMigration.Proofs.CommandLine.Outcome
import GatewayMigration.Proofs.Gce.Policies
import GatewayMigration.Proofs.Manifest.Flattening

/-!
# Reading back what is printed

As JSON, the documents of a conversion are printed as the items of one list object. No kind of
documents that a conversion writes is one of list objects, so the list object is flattened to just
these documents when it is read as a manifest.

## Main definitions

* `Report.listOf`: the list object of documents
* `Report.ReadsBack`: what is printed is flattened to the documents of the outputs

## Main results

* `Registry.eq_of_find?_standard`: the providers of the program
* `Registry.flat_of_run_ok`: documents of a conversion stand for themselves
* `Report.normalForm_and_readsBack`: the normal form of every manifest, and of all that is printed
-/

namespace GatewayMigration

/-! ### The documents of a conversion -/

/-- A document of a kind that is not one of list objects stands for itself. -/
theorem Manifest.flat_of_kind {doc : Json} {kind : String}
    (hdoc : (identity doc).kind = some kind) (hkind : isListKind kind = false) : Flat doc := by
  obtain ⟨v, hv, htext⟩ := Option.bind_eq_some_iff.mp hdoc
  constructor
  · rintro rfl
    cases hv
  · rintro items ⟨⟨front, hfront⟩, -⟩
    -- the kind of a list object ends in the word for a list, and this one does not
    obtain rfl := Option.some.inj (hv.symm.trans hfront)
    obtain rfl := Option.some.inj htext
    rw [isListKind_iff.mpr ⟨front, rfl⟩] at hkind
    cases hkind

/-- Documents of a topology stand for themselves, where it has nothing that Ingresses have no
counterpart for. -/
theorem Gce.flat_of_mem_documents {t : Topology} (ht : t.extras = Topology.empty.extras)
    {doc : Json} (hdoc : doc ∈ (lower t).1.documents) : Manifest.Flat doc := by
  have hidentity : Manifest.identity doc ∈ identities t := by
    rw [← map_identity_documents ht]
    exact List.mem_map_of_mem hdoc
  obtain ⟨kind, hdoc, hkind⟩ :
      ∃ kind, (Manifest.identity doc).kind = some kind ∧ Manifest.isListKind kind = false := by
    rcases List.mem_append.mp hidentity with h | h
    · rcases List.mem_append.mp h with h | h <;> obtain ⟨name, -, hname⟩ := List.mem_map.mp h
      · exact ⟨"Gateway", hname ▸ rfl, by decide⟩
      · exact ⟨"HTTPRoute", hname ▸ rfl, by decide⟩
    · obtain ⟨⟨kind, name⟩, -, hname⟩ := List.mem_map.mp h
      exact ⟨kind.text, hname ▸ rfl, by cases kind <;> decide⟩
  exact Manifest.flat_of_kind hdoc hkind

namespace Registry

/-- The program has one provider. -/
theorem eq_of_find?_standard {name : String} {p : Provider} (h : standard.find? name = some p) :
    p = Gce.provider := by
  rw [standard, register, OrderedMap.find?_insert] at h
  split at h
  case isTrue => exact (Option.some.inj h).symm
  case isFalse => cases h

/-- **Documents of a conversion stand for themselves**, whatever was read. -/
theorem flat_of_run_ok {ns : Option String} {source : Source} {names : List String}
    {outputs : List Output} (h : (standard.run ns source names).1 = .ok outputs) {doc : Json}
    (hdoc : doc ∈ outputs.flatMap fun o => o.resources.documents) : Manifest.Flat doc := by
  obtain ⟨o, ho, hdoc⟩ := List.mem_flatMap.mp hdoc
  have hruns := forall₂_of_run_ok (Prod.ext h rfl)
  obtain ⟨i, hi, rfl⟩ := List.mem_iff_getElem.mp ho
  obtain ⟨made, hname, hread, hgives⟩ := hruns.get (hruns.length_eq ▸ hi) hi
  -- each output is one of the only provider
  obtain rfl := eq_of_find?_standard hname
  have hresources := hgives.resources
  rw [List.get_eq_getElem] at hresources
  rw [hresources] at hdoc
  exact Gce.flat_of_mem_documents (Gce.extras_gceConvert _) hdoc

end Registry

/-! ### What is printed -/

namespace Report

open Manifest

/-- The list object of documents. -/
def listOf (docs : List Json) : Json :=
  .obj [("apiVersion", .str "v1"), ("items", .arr docs), ("kind", .str "List")]

theorem lists_listOf (docs : List Json) : Lists (listOf docs) docs :=
  ⟨⟨"", rfl⟩, rfl⟩

theorem eq_of_holds_json {docs : List Json} {text : String}
    (h : OutputFormat.Holds .json docs text) : text = (listOf docs).pretty ++ "\n" := by
  cases h
  rfl

/-- What is printed is flattened to the documents of the outputs. -/
structure ReadsBack (outputs : List Output) (report : Report) : Prop where
  /-- It is the text of a list object with all documents as its items. -/
  output : report.output =
    (listOf (outputs.flatMap fun o => o.resources.documents)).pretty ++ "\n"
  /-- The list object is flattened to just these documents. -/
  list : flatten [listOf (outputs.flatMap fun o => o.resources.documents)] =
    outputs.flatMap fun o => o.resources.documents
  /-- So are its items. -/
  items : flatten (outputs.flatMap fun o => o.resources.documents) =
    outputs.flatMap fun o => o.resources.documents

/-- **What a conversion prints is read back.** -/
theorem readsBack_of_tells {ns : Option String} {source : Source} {names : List String}
    {outputs : List Output} (hrun : (Registry.standard.run ns source names).1 = .ok outputs)
    {report : Report} (h : Tells .json outputs report) : ReadsBack outputs report where
  output := eq_of_holds_json h.output
  list := flatten_of_lists (fun _ => Registry.flat_of_run_ok hrun) (lists_listOf _)
  items := flatten_eq_self fun _ => Registry.flat_of_run_ok hrun

/-- A request whose run succeeds ends with a report of all outputs. -/
theorem tells_ofArguments {files : Files} {arguments : List String} {r : PrintRequest}
    {path : String} (hcommand : Command.ofArguments? arguments = some (.print r))
    (hpath : r.inputFile = some path) {outputs : List Output}
    (hrun : (Registry.standard.run r.ns (.manifest (Manifest.ofFile path (files path)))
      r.providers).1 = .ok outputs) : Tells r.format outputs (ofArguments files arguments) := by
  have hknown : ∀ name ∈ r.providers, ∃ p, Registry.standard.find? name = some p := by
    intro name hname
    obtain ⟨p, hp, -⟩ := Registry.exists_ok_run_iff.mp ⟨outputs, hrun⟩ name hname
    exact ⟨p, hp⟩
  rw [ofArguments, hcommand]
  dsimp only
  rw [print_of_run_ok hknown hpath hrun]
  exact tells_ofOutputs r.format outputs

/-- **Every manifest has a normal form**, and what is printed as JSON is the list object of
documents that are flattened already: those of a run over any source, and those that the program
prints for a manifest. -/
theorem normalForm_and_readsBack :
    (∀ docs, NormalForm docs) ∧
      (∀ ns source names outputs, (Registry.standard.run ns source names).1 = .ok outputs →
        ReadsBack outputs (ofOutputs .json outputs)) ∧
      ∀ files arguments r path outputs, Command.ofArguments? arguments = some (.print r) →
        r.inputFile = some path → r.format = .json →
        (Registry.standard.run r.ns (.manifest (Manifest.ofFile path (files path)))
          r.providers).1 = .ok outputs → ReadsBack outputs (ofArguments files arguments) := by
  refine ⟨normalForm, ?_, ?_⟩
  · intro ns source names outputs hrun
    exact readsBack_of_tells hrun (tells_ofOutputs .json outputs)
  · intro files arguments r path outputs hcommand hpath hformat hrun
    exact readsBack_of_tells hrun (hformat ▸ tells_ofArguments hcommand hpath hrun)

/-- A manifest of an Ingress that can be converted. -/
def webManifest : Files := fun _ =>
  .ok ("\x7bapiVersion: networking.k8s.io/v1, kind: Ingress, metadata: \x7bname: web\x7d, "
    ++ "spec: \x7bdefaultBackend: \x7bservice: \x7bname: web, port: \x7bnumber: 80"
    ++ "\x7d\x7d\x7d\x7d\x7d").toUTF8

def jsonArguments : List String :=
  ["print", "--providers", "gce", "--input-file", "in.yaml", "-o", "json"]

theorem normalForm_and_readsBack_web :
    ∃ outputs, (outputs.flatMap fun o => o.resources.documents).length = 2 ∧
      ReadsBack outputs (ofArguments webManifest jsonArguments) := by
  have hcommand : Command.ofArguments? jsonArguments =
      some (.print ⟨["gce"], some "in.yaml", none, .json⟩) := by decide +kernel
  have hlength : ((Registry.standard.run none
      (.manifest (Manifest.ofFile "in.yaml" (webManifest "in.yaml"))) ["gce"]).1.map fun outputs =>
        (outputs.flatMap fun o => o.resources.documents).length).toOption = some 2 := by
    rw [webManifest, Manifest.ofFile_toUTF8]
    decide +kernel
  cases hrun : (Registry.standard.run none
      (.manifest (Manifest.ofFile "in.yaml" (webManifest "in.yaml"))) ["gce"]).1 with
  | error e =>
    rw [hrun] at hlength
    cases hlength
  | ok outputs =>
    rw [hrun] at hlength
    exact ⟨outputs, Option.some.inj hlength,
      normalForm_and_readsBack.2.2 webManifest jsonArguments ⟨["gce"], some "in.yaml", none, .json⟩
        "in.yaml" outputs hcommand rfl rfl hrun⟩

end Report

end GatewayMigration
