import GatewayMigration.CommandLine.Report
import GatewayMigration.Proofs.OrderedMap
import GatewayMigration.Proofs.Provider.Running

/-!
# How the program ends

A request to print what a manifest is converted to ends in one of three ways. A provider that
nobody knows ends it before the file is looked at, and a conversion that fails ends it with nothing
printed. Otherwise all documents of all providers are printed, also where fields could not be
converted, and the code tells whether there was any such field.

## Main definitions

* `OutputFormat.Holds`: the text of documents in a format
* `Report.Entry`: what stands on the error output
* `Report.Tells`: a report of what the providers produced
* `Report.Outcome`: the three ways to end

## Main results

* `Registry.contains_names_iff`: the names of a registry are those of its providers
* `holds_documents`: documents are printed in their format, one after the other
* `tells_ofOutputs`: field errors change the code, and nothing of what is printed
* `outcome_of_print`: how the program ends, for every request and every file
-/

namespace GatewayMigration

/-- The names of a registry are those of its providers. -/
theorem Registry.contains_names_iff {r : Registry} {name : String} :
    r.names.contains name = true ↔ ∃ p, r.find? name = some p := by
  rw [List.contains_iff_mem, Registry.names, OrderedMap.keys, List.mem_map]
  constructor
  · rintro ⟨⟨_, p⟩, he, rfl⟩
    exact ⟨p, OrderedMap.find?_eq_some_iff.mpr he⟩
  · rintro ⟨p, hp⟩
    exact ⟨(name, p), OrderedMap.find?_eq_some_iff.mp hp, rfl⟩

/-! ### Documents -/

/-- The text of documents in a format. -/
inductive OutputFormat.Holds : OutputFormat → List Json → String → Prop
  /-- YAML of no document is empty. -/
  | none : Holds .yaml [] ""
  /-- YAML of more documents begins with a line of three dashes and the first of them. -/
  | document (doc : Json) {docs : List Json} {text : String} (h : Holds .yaml docs text) :
      Holds .yaml (doc :: docs) ("---\n" ++ Yaml.print doc ++ text)
  /-- JSON is a single list object, with the documents as its items. -/
  | list (docs : List Json) :
      Holds .json docs
        ((Json.obj [("apiVersion", .str "v1"), ("items", .arr docs), ("kind", .str "List")]).pretty
          ++ "\n")

namespace Report

/-- The members of the list object, in the order in which they are printed. -/
theorem ofMembers_list (docs : List Json) :
    Json.ofMembers [("apiVersion", .str "v1"), ("kind", .str "List"), ("items", .arr docs)] =
      .obj [("apiVersion", .str "v1"), ("items", .arr docs), ("kind", .str "List")] := by
  have hkind : compare "kind" "apiVersion" = .gt := by decide
  have hitems : compare "items" "apiVersion" = .gt := by decide
  have hbetween : compare "items" "kind" = .lt := by decide
  simp [Json.ofMembers, OrderedMap.ofList, OrderedMap.insert, OrderedMap.upsert,
    OrderedMap.upsertEntry, OrderedMap.empty, hkind, hitems, hbetween]

/-- **Documents are printed in their format**, one after the other. -/
theorem holds_documents (format : OutputFormat) (docs : List Json) :
    format.Holds docs (documents format docs) := by
  cases format with
  | json =>
    rw [documents, ofMembers_list]
    exact .list docs
  | yaml =>
    induction docs with
    | nil => exact .none
    | cons doc docs ih =>
      rw [documents, List.map_cons, String.join_cons]
      exact .document doc ih

/-! ### The error output -/

/-- What stands on the error output. -/
inductive Entry where
  /-- The notifications of a provider. -/
  | advice (provider : String) (notifications : List Notification)
  | fieldError (provider : String) (e : FieldError)
  /-- Why the program ends with an error. -/
  | fault (f : Fault)

namespace Entry

def text : Entry → String
  | advice provider notifications => Notification.table provider notifications ++ "\n"
  | fieldError provider e => "error: " ++ provider ++ ": " ++ e.text ++ "\n"
  | fault f => faultLine f

/-- The field error of an entry, with its provider. -/
def fieldError? : Entry → Option (String × FieldError)
  | fieldError provider e => some (provider, e)
  | advice _ _ | fault _ => none

end Entry

/-- The entries of a provider: its notifications, if there are any, and its field errors. -/
def entriesOf (o : Output) : List Entry :=
  (if o.notifications.isEmpty then [] else [.advice o.provider o.notifications]) ++
    o.errors.map (.fieldError o.provider)

/-- The entries of all providers, and a fault if there is any field error. -/
def entries (outputs : List Output) : List Entry :=
  let count := (outputs.flatMap Output.errors).length
  outputs.flatMap entriesOf ++ if count = 0 then [] else [.fault (.fieldErrors count)]

theorem join_text_entriesOf (o : Output) :
    String.join ((entriesOf o).map Entry.text) = diagnostics o := by
  unfold entriesOf diagnostics
  rw [List.map_append, String.join_append, List.map_map]
  split
  case isTrue => rfl
  case isFalse =>
    rw [List.map_cons, List.map_nil, String.join_cons, String.join_nil, String.append_empty]
    rfl

theorem filterMap_fieldError?_entriesOf (o : Output) :
    (entriesOf o).filterMap Entry.fieldError? = o.errors.map (o.provider, ·) := by
  have hfields : Entry.fieldError? ∘ Entry.fieldError o.provider = some ∘ (o.provider, ·) := rfl
  unfold entriesOf
  rw [List.filterMap_append, List.filterMap_map, hfields, List.filterMap_eq_map]
  split <;> rfl

/-- The entries are what stands on the error output. -/
theorem errorOutput_ofOutputs (format : OutputFormat) (outputs : List Output) :
    (ofOutputs format outputs).errorOutput = String.join ((entries outputs).map Entry.text) := by
  have hproviders : String.join ((outputs.flatMap entriesOf).map Entry.text) =
      String.join (outputs.map diagnostics) := by
    induction outputs with
    | nil => rfl
    | cons o outputs ih =>
      rw [List.flatMap_cons, List.map_append, String.join_append, join_text_entriesOf, ih,
        List.map_cons, String.join_cons]
  unfold ofOutputs entries
  dsimp only
  rw [List.map_append, String.join_append, hproviders]
  split
  case isTrue => exact String.append_empty.symm
  case isFalse =>
    rw [List.map_cons, List.map_nil, String.join_cons, String.join_nil, String.append_empty]
    rfl

/-- Each field error has one entry, and the entries are in the order of the errors. -/
theorem filterMap_fieldError?_entries (outputs : List Output) :
    (entries outputs).filterMap Entry.fieldError? =
      outputs.flatMap fun o => o.errors.map (o.provider, ·) := by
  unfold entries
  dsimp only
  rw [List.filterMap_append, List.filterMap_flatMap]
  simp only [filterMap_fieldError?_entriesOf]
  -- the fault is no field error
  split <;> exact List.append_nil _

/-! ### What was converted -/

/-- A report of what the providers produced. -/
structure Tells (format : OutputFormat) (outputs : List Output) (report : Report) : Prop where
  /-- All documents are printed, those of the first provider first. -/
  output : format.Holds (outputs.flatMap fun o => o.resources.documents) report.output
  /-- There is one entry on the error output for each field error, in their order. -/
  errorOutput : ∃ entries : List Entry,
    report.errorOutput = String.join (entries.map Entry.text) ∧
      entries.filterMap Entry.fieldError? = outputs.flatMap fun o => o.errors.map (o.provider, ·)
  /-- The code tells whether there is any. -/
  code : report.code = if (outputs.flatMap Output.errors).length = 0 then 0 else 1

/-- **Field errors change the code**, and nothing of what is printed. -/
theorem tells_ofOutputs (format : OutputFormat) (outputs : List Output) :
    Tells format outputs (ofOutputs format outputs) := by
  constructor
  case output =>
    unfold ofOutputs
    dsimp only
    split <;> exact holds_documents ..
  case errorOutput =>
    exact ⟨entries outputs, errorOutput_ofOutputs .., filterMap_fieldError?_entries _⟩
  case code =>
    unfold ofOutputs
    dsimp only
    split <;> rfl

/-! ### The three ways to end -/

/-- How the program ends with arguments that make the request, where the manifest is the file at the
path. -/
structure Outcome (files : Files) (arguments : List String) (r : PrintRequest) (path : String) :
    Prop where
  /-- If there is a provider that nobody knows, nothing is printed, whatever the files hold. -/
  unknown : ∀ name ∈ r.providers, Registry.standard.find? name = none →
    (ofArguments files arguments).code = 1 ∧ (ofArguments files arguments).output = "" ∧
      ∀ files', ofArguments files' arguments = ofArguments files arguments
  /-- Otherwise, if the conversion fails, nothing is printed. -/
  failed : (∀ name ∈ r.providers, ∃ p, Registry.standard.find? name = some p) →
    ∀ cause, (Registry.standard.run r.ns (.manifest (Manifest.ofFile path (files path)))
        r.providers).1 = .error cause →
      (ofArguments files arguments).code = 1 ∧ (ofArguments files arguments).output = ""
  /-- Otherwise there is an output for each name, in the order of the request, and all of them are
  reported. -/
  converted : (∀ name ∈ r.providers, ∃ p, Registry.standard.find? name = some p) →
    ∀ outputs, (Registry.standard.run r.ns (.manifest (Manifest.ofFile path (files path)))
        r.providers).1 = .ok outputs →
      List.Forall₂ (fun name o => ∃ requests, Registry.standard.Runs r.ns
        (.manifest (Manifest.ofFile path (files path))) name o requests) r.providers outputs ∧
      Tells r.format outputs (ofArguments files arguments)

/-- A request with a name that nobody knows ends with a fault, before any file is looked at. -/
theorem print_of_unknown {r : PrintRequest} {name : String} (hname : name ∈ r.providers)
    (hnone : Registry.standard.find? name = none) :
    ∃ f, ∀ files, print files r = ofFault f := by
  have hunknown : (r.providers.find? (!Registry.standard.names.contains ·)).isSome := by
    rw [List.find?_isSome]
    refine ⟨name, hname, ?_⟩
    rw [Bool.not_eq_true', Bool.eq_false_iff, ne_eq, Registry.contains_names_iff, hnone]
    rintro ⟨p, hp⟩
    cases hp
  obtain ⟨first, hfirst⟩ := Option.isSome_iff_exists.mp hunknown
  refine ⟨.unknownProvider first Registry.standard.names, fun files => ?_⟩
  unfold print
  dsimp only
  rw [hfirst]

section Known

variable {files : Files} {r : PrintRequest} {path : String}
  (hknown : ∀ name ∈ r.providers, ∃ p, Registry.standard.find? name = some p)
  (hpath : r.inputFile = some path)

include hknown

theorem find?_eq_none_of_known :
    r.providers.find? (!Registry.standard.names.contains ·) = none := by
  rw [List.find?_eq_none]
  intro name hname
  rw [Registry.contains_names_iff.mpr (hknown name hname)]
  exact Bool.false_ne_true

include hpath

/-- A request whose names are all known ends with the failure of the run over the manifest. -/
theorem print_of_run_error {cause : Failure}
    (hrun : (Registry.standard.run r.ns (.manifest (Manifest.ofFile path (files path)))
      r.providers).1 = .error cause) :
    print files r = ofFault (.failure cause) := by
  simp only [print, find?_eq_none_of_known hknown, hpath, hrun]

/-- A request whose names are all known ends with the outputs of the run over the manifest. -/
theorem print_of_run_ok {outputs : List Output}
    (hrun : (Registry.standard.run r.ns (.manifest (Manifest.ofFile path (files path)))
      r.providers).1 = .ok outputs) :
    print files r = ofOutputs r.format outputs := by
  simp only [print, find?_eq_none_of_known hknown, hpath, hrun]

end Known

/-- **How the program ends**, for every request that reads a manifest, and whatever the file
holds. -/
theorem outcome_of_print {arguments : List String} {r : PrintRequest} {path : String}
    (hcommand : Command.ofArguments? arguments = some (.print r))
    (hpath : r.inputFile = some path) (files : Files) : Outcome files arguments r path := by
  have hreport : ∀ files, ofArguments files arguments = print files r := by
    intro files
    rw [ofArguments, hcommand]
  constructor
  case unknown =>
    intro name hname hnone
    obtain ⟨f, hfault⟩ := print_of_unknown hname hnone
    have hsame : ∀ files, ofArguments files arguments = ofFault f := fun files =>
      (hreport files).trans (hfault files)
    rw [hsame files]
    exact ⟨rfl, rfl, hsame⟩
  case failed =>
    intro hknown cause hrun
    rw [hreport, print_of_run_error hknown hpath hrun]
    exact ⟨rfl, rfl⟩
  case converted =>
    intro hknown outputs hrun
    refine ⟨Registry.forall₂_of_run_ok (Prod.ext hrun rfl), ?_⟩
    rw [hreport, print_of_run_ok hknown hpath hrun]
    exact tells_ofOutputs r.format outputs

/-- A manifest of an Ingress with a default backend, and with a path that has no backend. -/
def missingBackend : Files := fun _ =>
  .ok ("apiVersion: networking.k8s.io/v1\nkind: Ingress\nmetadata: \x7bname: web\x7d\nspec:\n"
    ++ " defaultBackend: \x7bservice: \x7bname: web, port: \x7bnumber: 80\x7d\x7d\x7d\n"
    ++ " rules: [\x7bhttp: \x7bpaths: [\x7bpathType: Exact, backend: \x7b\x7d\x7d]"
    ++ "\x7d\x7d]\n").toUTF8

/-- The document of the Ingress. -/
def missingBackendIngress : Json :=
  .obj [("apiVersion", .str "networking.k8s.io/v1"), ("kind", .str "Ingress"),
    ("metadata", .obj [("name", .str "web")]),
    ("spec", .obj [
      ("defaultBackend", .obj [("service", .obj [
        ("name", .str "web"), ("port", .obj [("number", .int 80)])])]),
      ("rules", .arr [.obj [("http", .obj [("paths", .arr [.obj [
        ("backend", .obj []), ("pathType", .str "Exact")]])])]])])]

theorem ofFile_missingBackend :
    Manifest.ofFile "in.yaml" (missingBackend "in.yaml") = .ok [missingBackendIngress] := by
  rw [missingBackend, Manifest.ofFile_toUTF8]
  decide +kernel

/-- Arguments that ask for one provider twice. -/
def twiceArguments : List String :=
  ["print", "--providers", "gce,gce", "--input-file", "in.yaml", "-o", "yaml"]

/-- The documents of the default backend, as they are printed. -/
def webDocuments : String :=
  "---\napiVersion: gateway.networking.k8s.io/v1\nkind: Gateway\nmetadata:\n  name: gce\n"
    ++ "spec:\n  gatewayClassName: gke-l7-global-external-managed\n"
    ++ "  listeners:\n  - name: http\n    port: 80\n    protocol: HTTP\n"
    ++ "---\napiVersion: gateway.networking.k8s.io/v1\nkind: HTTPRoute\n"
    ++ "metadata:\n  name: web-default-backend\nspec:\n  parentRefs:\n  - name: gce\n"
    ++ "  rules:\n  - backendRefs:\n    - name: web\n      port: 80\n"

/-- The line about the path. -/
def pathLine : String :=
  "error: gce: Ingress /web: spec.rules[0].http.paths[0].backend: required value: "
    ++ "a backend must reference either a service or a resource\n"

/-- Both runs of the provider are printed, and their errors are counted together. -/
theorem outcome_of_print_missingBackend :
    Command.ofArguments? twiceArguments =
        some (.print ⟨["gce", "gce"], some "in.yaml", none, .yaml⟩) ∧
      Outcome missingBackend twiceArguments ⟨["gce", "gce"], some "in.yaml", none, .yaml⟩
        "in.yaml" ∧
      ofArguments missingBackend twiceArguments =
        ⟨1, webDocuments ++ webDocuments,
          pathLine ++ pathLine ++ "Error: conversion finished with 2 error(s)\n"⟩ := by
  have hcommand : Command.ofArguments? twiceArguments =
      some (.print ⟨["gce", "gce"], some "in.yaml", none, .yaml⟩) := by decide +kernel
  refine ⟨hcommand, outcome_of_print hcommand rfl missingBackend, ?_⟩
  rw [ofArguments, hcommand]
  dsimp only [print]
  rw [ofFile_missingBackend]
  decide +kernel

end Report

end GatewayMigration
