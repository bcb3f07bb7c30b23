import Registrar.Proofs.Acceptance
import Registrar.Proofs.RoundTrip.Metadata
/-!
# How a manifest is divided

A manifest is taken if all of its entries are named as they should be. Its entries go into two lists
then, each by its flag and all in their order, as registrations that carry the label of the owner.
The labels of an entry are read into a dictionary in order, so this label stands for one value only,
whatever the entry itself says under it.
-/

set_option autoImplicit false

/-! ## What is read has a property -/

namespace Registrar.Yaml.Reading

variable {α β : Type} {property : β → Prop}

/-- If a value is read, it has this property, wherever it stands. -/
def Ensures (property : β → Prop) (reading : Reading β) : Prop :=
  ∀ scope count, Registrar.Ensures (fun read => property read.1) ((reading.run scope).run count)

theorem ensures_pure {value : β} (holds : property value) :
    Ensures property (pure value : Reading β) :=
  fun _ _ => .ok holds

theorem ensures_misfit (cause : Mismatch) : Ensures property (misfit cause : Reading β) :=
  fun _ _ => .error _

theorem Ensures.bind {holds : α → Prop} {first : Reading α} {next : α → Reading β}
    (before : Ensures holds first)
    (further : ∀ value, holds value → Ensures property (next value)) :
    Ensures property (first >>= next) :=
  fun scope count => .bind fun read found =>
    further read.1 (before scope count read found) scope read.2

theorem ensures_bind {first : Reading α} {next : α → Reading β}
    (further : ∀ value, Ensures property (next value)) : Ensures property (first >>= next) :=
  fun scope _ => .bind fun read _ => further read.1 scope read.2

theorem Ensures.atKey {reading : Reading β} (ensures : Ensures property reading)
    (key : Option String) : Ensures property (reading.atKey key) :=
  fun _ count => ensures _ count

theorem Ensures.atIndex {reading : Reading β} (ensures : Ensures property reading)
    (index : Nat) : Ensures property (reading.atIndex index) :=
  fun _ count => ensures _ count

theorem ensures_wrong (node : Node) (expected : String) :
    Ensures property (wrong node expected : Reading β) := by
  intro scope count
  unfold wrong
  cases node <;> exact .error _

/-! ### Lists, dictionaries and records -/

theorem ensures_items {read : Node → Reading β} (each : ∀ node, Ensures property (read node))
    (index : Nat) (nodes : List Node) :
    Ensures (fun values => ∀ value ∈ values, property value) (items read index nodes) := by
  induction nodes generalizing index with
  | nil => exact ensures_pure (List.forall_mem_nil _)
  | cons node rest ih =>
      have further : Ensures (fun values => ∀ value ∈ values, property value)
          (do
            let value ← (read node).atIndex index
            return value :: (← items read (index + 1) rest)) :=
        ((each node).atIndex index).bind fun value first =>
          (ih (index + 1)).bind fun values others =>
            ensures_pure (List.forall_mem_cons.mpr ⟨first, others⟩)
      unfold items
      cases node with
      | cut => exact fun _ _ => .error _
      | _ => exact further

theorem ensures_list {read : Node → Reading β} (each : ∀ node, Ensures property (read node))
    (node : Node) :
    Ensures (fun values => ∀ value ∈ values, property value) (list read node) := by
  refine ensures_bind fun node => ?_
  cases node with
  | sequence nodes => exact ensures_items each 0 nodes
  | _ =>
      dsimp only
      split
      · exact ensures_pure (List.forall_mem_nil _)
      · exact ensures_wrong _ _

theorem ensures_textEntries {dictionary : Dictionary} (ordered : dictionary.Ordered)
    (entries : List (Node × Node)) :
    Ensures Dictionary.Ordered (textEntries dictionary entries) := by
  induction entries generalizing dictionary with
  | nil => exact ensures_pure ordered
  | cons entry rest ih =>
      exact ensures_bind fun name => ensures_bind fun content => ih (ordered.insert name content)

theorem ensures_dictionary (node : Node) : Ensures Dictionary.Ordered (dictionary node) := by
  refine ensures_bind fun node => ?_
  cases node with
  | mapping entries => exact ensures_textEntries .nil entries
  | _ =>
      dsimp only
      split
      · exact ensures_pure .nil
      · exact ensures_wrong _ _

section Records

variable {δ : Type} {drafted : δ → Prop} {outline : Outline} {blank : δ}
  {field : String → Node → δ → Reading δ} {finish : δ → Decoded β}

theorem ensures_fields
    (kept : ∀ name node draft, drafted draft → Ensures drafted (field name node draft))
    (entries : List (Node × Node)) (seen : List String) {draft : δ} (first : drafted draft) :
    Ensures drafted (fields outline field seen draft entries) := by
  induction entries generalizing seen draft with
  | nil => exact ensures_pure first
  | cons entry rest ih =>
      refine ensures_bind fun name => ?_
      split
      · split
        · exact ensures_misfit _
        · exact ((kept name entry.2 draft first).atKey _).bind fun draft good =>
            ih (name :: seen) good
      · exact ensures_bind fun _ => ih seen first

theorem ensures_finished {draft : δ} (holds : Registrar.Ensures property (finish draft)) :
    Ensures property (finished finish draft) := by
  unfold finished
  cases read : finish draft with
  | error cause => exact ensures_misfit cause
  | ok value => exact ensures_pure (holds value read)

theorem ensures_record (first : drafted blank)
    (kept : ∀ name node draft, drafted draft → Ensures drafted (field name node draft))
    (finishes : ∀ draft, drafted draft → Registrar.Ensures property (finish draft)) (node : Node) :
    Ensures property (record outline blank field finish node) := by
  refine ensures_bind fun node => ?_
  cases node with
  | mapping entries =>
      exact (ensures_fields kept entries [] first).bind fun draft good =>
        ensures_finished (finishes draft good)
  | _ =>
      dsimp only
      split
      · exact ensures_finished (finishes blank first)
      · exact ensures_wrong _ _

end Records

/-- What every node is read as has a property, so what a document is read as has it. -/
theorem ensures_readDocument {read : Node → Reading β} (each : ∀ node, Ensures property (read node))
    (text : String) : Registrar.Ensures property (readDocument read text) := by
  refine .bind fun read found => ?_
  have holds : property read.1 := each _ _ _ read found
  cases (Document.ofText text).fault with
  | some fault => exact .error _
  | none =>
      dsimp only
      split
      · exact .error _
      · exact .ok holds

end Registrar.Yaml.Reading

namespace Registrar

open Yaml (Node)
open Yaml.Reading (ensures_bind ensures_pure ensures_record)

namespace ManifestEntry

def Draft.Ordered (draft : Draft) : Prop :=
  ∀ labels ∈ draft.labels, labels.Ordered

theorem ensures_readField (name : String) (node : Node) (draft : Draft) (ordered : draft.Ordered) :
    Yaml.Reading.Ensures Draft.Ordered (readField name node draft) := by
  unfold readField
  split
  · exact ensures_bind fun _ => ensures_pure ordered
  · exact ensures_bind fun _ => ensures_pure ordered
  · refine (Yaml.Reading.ensures_dictionary node).bind fun labels sorted => ensures_pure ?_
    intro other same
    cases same
    exact sorted
  · exact ensures_bind fun _ => ensures_pure ordered
  · exact ensures_pure ordered

/-- The labels of an entry that was read are in order. -/
theorem ensures_read (node : Node) :
    Yaml.Reading.Ensures (fun entry : ManifestEntry => entry.labels.Ordered) (read node) := by
  refine ensures_record ?_ ensures_readField (fun draft ordered => ?_) node
  · intro labels absent
    cases absent
  · refine .bind fun name _ => .bind fun spec _ => .ok ?_
    cases given : draft.labels with
    | none => exact .nil
    | some labels => exact ordered labels given

end ManifestEntry

namespace Manifest

theorem ensures_readField (name : String) (node : Node) (entries : List ManifestEntry)
    (ordered : ∀ entry ∈ entries, entry.labels.Ordered) :
    Yaml.Reading.Ensures (fun entries => ∀ entry ∈ entries, entry.labels.Ordered)
      (readField name node entries) := by
  unfold readField
  split
  · exact Yaml.Reading.ensures_list ManifestEntry.ensures_read node
  · exact ensures_pure ordered

theorem ensures_read (node : Node) :
    Yaml.Reading.Ensures (fun manifest => ∀ entry ∈ manifest.entries, entry.labels.Ordered)
      (read node) :=
  ensures_record (List.forall_mem_nil _) ensures_readField (fun _ ordered => .ok ordered) node

/-- A text is accepted as the manifest that is read from it, if all names are as they should be. -/
theorem parse_eq_ok_iff (text : String) (manifest : Manifest) :
    parse text = .ok manifest ↔
      Yaml.readDocument read text = .ok manifest ∧ manifest.WellNamed := by
  unfold parse
  cases Yaml.readDocument read text with
  | error problem => simp [bind, Except.bind]
  | ok found =>
      rcases found.wellNamed_or_misnamed with named | ⟨failure, misnamed⟩
      · have checked := named.validate
        simp only [bind, Except.bind, checked, pure, Except.pure]
        constructor
        · intro same
          cases same
          exact ⟨rfl, named⟩
        · rintro ⟨same, _⟩
          cases same
          rfl
      · have checked := misnamed.validate
        simp only [bind, Except.bind, checked]
        constructor
        · intro same
          cases same
        · rintro ⟨same, named⟩
          cases same
          cases checked.symm.trans named.validate

end Manifest

/-! ## Two lists of registrations -/

open ManifestEntry (ownerLabel ownerValue)

/-- The labels of an entry with the label of the owner, each key once. -/
structure Stamped (given stamped : Dictionary) : Prop where
  owner : stamped.get? ownerLabel = some ownerValue
  others : ∀ key, key ≠ ownerLabel → stamped.get? key = given.get? key
  ordered : stamped.Ordered

/-- The registration is the one of the entry: it has nothing but the name, the labels and the
specification of the entry, and the label of the owner. -/
structure StandsFor (entry : ManifestEntry) (registration : Registration) : Prop where
  name : registration.name = entry.name
  spec : registration.spec = entry.spec
  metadata : ∃ labels, registration.metadata = { name := some entry.name, labels := some labels } ∧
    Stamped entry.labels labels
  status : registration.status = none

/-- Entries that were divided: each of them has gone into one of two lists by its flag, and the
lists have the order of the entries. -/
inductive Divided : List ManifestEntry → List Registration → List Registration → Prop where
  | nil : Divided [] [] []
  | enabled {entry : ManifestEntry} {registration : Registration} {entries : List ManifestEntry}
      {enabled disabled : List Registration} :
      entry.enabled = true → StandsFor entry registration → Divided entries enabled disabled →
      Divided (entry :: entries) (registration :: enabled) disabled
  | disabled {entry : ManifestEntry} {registration : Registration} {entries : List ManifestEntry}
      {enabled disabled : List Registration} :
      entry.enabled = false → StandsFor entry registration → Divided entries enabled disabled →
      Divided (entry :: entries) enabled (registration :: disabled)

theorem stamped_insert {labels : Dictionary} (ordered : labels.Ordered) :
    Stamped labels (labels.insert ownerLabel ownerValue) := by
  refine ⟨?_, fun key other => ?_, ordered.insert _ _⟩
  · rw [Dictionary.get?_insert, if_pos rfl]
  · rw [Dictionary.get?_insert, if_neg other]

theorem ManifestEntry.standsFor_registration {entry : ManifestEntry}
    (ordered : entry.labels.Ordered) : StandsFor entry entry.registration :=
  ⟨rfl, rfl, ⟨_, rfl, stamped_insert ordered⟩, rfl⟩

namespace Manifest

theorem divided_managed (manifest : Manifest)
    (ordered : ∀ entry ∈ manifest.entries, entry.labels.Ordered) :
    Divided manifest.entries manifest.managed.enabled manifest.managed.disabled := by
  obtain ⟨entries⟩ := manifest
  induction entries with
  | nil => exact .nil
  | cons entry rest ih =>
      obtain ⟨here, later⟩ := List.forall_mem_cons.mp ordered
      have stands := ManifestEntry.standsFor_registration here
      cases flag : entry.enabled with
      | true => simpa [managed, List.filter_cons, flag] using Divided.enabled flag stands (ih later)
      | false =>
          simpa [managed, List.filter_cons, flag] using Divided.disabled flag stands (ih later)

/-- What becomes of a text that is given as a manifest. -/
structure Review (text : String) : Prop where
  /-- It is accepted just if every entry, wanted or not, is named after its version and group. -/
  accepted_iff : ∀ manifest, Yaml.readDocument read text = .ok manifest →
    ((∃ accepted, parse text = .ok accepted) ↔
      ∀ entry ∈ manifest.entries, entry.name = entry.spec.version ++ "." ++ entry.spec.group)
  /-- Otherwise it is refused for the first entry that is not. -/
  refused_iff : ∀ manifest, Yaml.readDocument read text = .ok manifest →
    ∀ failure, parse text = .error failure ↔ manifest.Misnamed failure
  /-- What is accepted is what was read, and all of it goes into the two lists. -/
  divided : ∀ manifest, parse text = .ok manifest →
    Yaml.readDocument read text = .ok manifest ∧
      Divided manifest.entries manifest.managed.enabled manifest.managed.disabled

/-- For all texts: a manifest is accepted just if its entries are named as they should be, or else
refused for the first one that is not, and the entries of an accepted one are divided by their
flags. -/
theorem manifest_divides (text : String) : Review text := by
  refine ⟨fun manifest found => ?_, fun manifest found failure => ?_, fun manifest accepted => ?_⟩
  · simp only [parse_eq_ok_iff, found, Except.ok.injEq]
    exact ⟨fun ⟨_, same, named⟩ => same ▸ named, fun named => ⟨manifest, rfl, named⟩⟩
  · rw [parse_eq_error_iff, found]
    simp
  · obtain ⟨found, _⟩ := (parse_eq_ok_iff text manifest).mp accepted
    exact ⟨found, manifest.divided_managed
      (Yaml.Reading.ensures_readDocument ensures_read text manifest found)⟩

/-- An entry cannot name an owner of its own. -/
example (spec : RegistrationSpec) :
    (managed ⟨[⟨"v1.users.io", false, [(ownerLabel, "other"), ("team", "users")], spec⟩]⟩).disabled
      = [{ metadata := { name := some "v1.users.io"
                         labels := some [(ownerLabel, ownerValue), ("team", "users")] }
           spec := spec, status := none }] :=
  rfl

end Manifest

end Registrar
