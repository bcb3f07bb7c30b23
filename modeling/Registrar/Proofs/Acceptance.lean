import Registrar.Source
/-!
# What the manifest may hold

A manifest is accepted as a whole or not at all. One is refused for the first reason that applies:
there is no file, its bytes are no text, the text is no manifest, or some entry is misnamed. Of
several misnamed entries the first one is told, wherever it stands.
-/

set_option autoImplicit false

namespace Registrar

/-- Of two steps either the first one fails, or the second one does with what the first one gave. -/
theorem bind_eq_error_iff {α β : Type} (first : Except Failure α) (next : α → Except Failure β)
    (failure : Failure) :
    (first >>= next) = .error failure ↔
      first = .error failure ∨ ∃ value, first = .ok value ∧ next value = .error failure := by
  cases first <;> simp [bind, Except.bind]

namespace ManifestEntry

def WellNamed (entry : ManifestEntry) : Prop :=
  entry.name = entry.expectedName

/-- What is told of an entry that is misnamed. -/
def complaint (entry : ManifestEntry) : Failure :=
  if entry.name = "" then .config "manifest entry is missing a name"
  else
    .config ("APIService " ++ entry.name ++ " must be named " ++ entry.expectedName ++
      " after its version and group")

/-- No entry is rightly without a name: there is always the dot between version and group. -/
theorem WellNamed.named {entry : ManifestEntry} (wellNamed : entry.WellNamed) :
    entry.name ≠ "" := by
  intro unnamed
  have dotted := congrArg String.length (wellNamed.symm.trans unnamed)
  simp [expectedName] at dotted

theorem validate_of_wellNamed {entry : ManifestEntry} (wellNamed : entry.WellNamed) :
    entry.validate = .ok () := by
  unfold validate
  rw [if_neg wellNamed.named]
  exact if_pos wellNamed

theorem validate_of_misnamed {entry : ManifestEntry} (misnamed : ¬ entry.WellNamed) :
    entry.validate = .error entry.complaint := by
  unfold validate complaint
  split
  · rfl
  · exact if_neg misnamed

end ManifestEntry

namespace Manifest

def WellNamed (manifest : Manifest) : Prop :=
  ∀ entry ∈ manifest.entries, entry.WellNamed

/-- Some entry is misnamed, none before it is, and this is what is told of it. -/
def Misnamed (manifest : Manifest) (failure : Failure) : Prop :=
  ∃ before entry after, manifest.entries = before ++ entry :: after ∧
    (∀ earlier ∈ before, earlier.WellNamed) ∧ ¬ entry.WellNamed ∧ failure = entry.complaint

theorem wellNamed_or_misnamed (manifest : Manifest) :
    manifest.WellNamed ∨ ∃ failure, manifest.Misnamed failure := by
  obtain ⟨entries⟩ := manifest
  unfold WellNamed Misnamed
  induction entries with
  | nil => exact .inl (by simp)
  | cons entry rest ih =>
      by_cases named : entry.WellNamed
      · rcases ih with all | ⟨failure, before, bad, after, rfl, good, told⟩
        · exact .inl (List.forall_mem_cons.mpr ⟨named, all⟩)
        · exact .inr ⟨failure, entry :: before, bad, after, rfl,
            List.forall_mem_cons.mpr ⟨named, good⟩, told⟩
      · exact .inr ⟨entry.complaint, [], entry, rest, rfl, by simp, named, rfl⟩

theorem forM_validate_append {before : List ManifestEntry}
    (good : ∀ entry ∈ before, entry.WellNamed) (rest : List ManifestEntry) :
    (before ++ rest).forM ManifestEntry.validate = rest.forM ManifestEntry.validate := by
  induction before with
  | nil => rfl
  | cons entry before ih =>
      obtain ⟨named, good⟩ := List.forall_mem_cons.mp good
      calc (entry :: before ++ rest).forM ManifestEntry.validate
          = (entry.validate >>= fun _ => (before ++ rest).forM ManifestEntry.validate) := rfl
        _ = (before ++ rest).forM ManifestEntry.validate := by
          rw [ManifestEntry.validate_of_wellNamed named]
          rfl
        _ = rest.forM ManifestEntry.validate := ih good

theorem WellNamed.validate {manifest : Manifest} (wellNamed : manifest.WellNamed) :
    manifest.validate = .ok () := by
  unfold Manifest.validate
  rw [← manifest.entries.append_nil, forM_validate_append wellNamed]
  rfl

theorem Misnamed.validate {manifest : Manifest} {failure : Failure}
    (misnamed : manifest.Misnamed failure) : manifest.validate = .error failure := by
  obtain ⟨before, entry, after, entries, good, bad, rfl⟩ := misnamed
  unfold Manifest.validate
  rw [entries, forM_validate_append good]
  calc (entry :: after).forM ManifestEntry.validate
      = (entry.validate >>= fun _ => after.forM ManifestEntry.validate) := rfl
    _ = .error entry.complaint := by
      rw [ManifestEntry.validate_of_misnamed bad]
      rfl

/-- The check of a manifest fails just with what is told of its first misnamed entry. -/
theorem validate_eq_error_iff (manifest : Manifest) (failure : Failure) :
    manifest.validate = .error failure ↔ manifest.Misnamed failure := by
  refine ⟨fun failed => ?_, Misnamed.validate⟩
  rcases manifest.wellNamed_or_misnamed with wellNamed | ⟨other, misnamed⟩
  · cases failed.symm.trans wellNamed.validate
  · cases failed.symm.trans misnamed.validate
    exact misnamed

theorem parse_eq_error_iff (text : String) (failure : Failure) :
    parse text = .error failure ↔
      (∃ problem, Yaml.readDocument read text = .error problem ∧ failure = .manifest problem) ∨
      ∃ manifest, Yaml.readDocument read text = .ok manifest ∧ manifest.Misnamed failure := by
  unfold parse
  cases Yaml.readDocument read text with
  | error problem =>
      rw [bind_eq_error_iff]
      simp [eq_comm]
  | ok manifest => simp [bind_eq_error_iff, validate_eq_error_iff, pure, Except.pure]

end Manifest

namespace FileContent

/-- Why a file is refused, and what is told of it. -/
inductive Defective (content : FileContent) : Failure → Prop where
  | missing : content = none → Defective content (.io (systemErrorMessage 2))
  | undecodable {bytes : ByteArray} :
      content = some bytes → String.fromUTF8? bytes = none →
      Defective content (.io "stream did not contain valid UTF-8")
  | malformed {text : String} {problem : Yaml.Problem} :
      content.text = .ok text → Yaml.readDocument Manifest.read text = .error problem →
      Defective content (.manifest problem)
  | misnamed {text : String} {manifest : Manifest} {failure : Failure} :
      content.text = .ok text → Yaml.readDocument Manifest.read text = .ok manifest →
      manifest.Misnamed failure → Defective content failure

theorem text_ofText (text : String) : (ofText text).text = .ok text := by
  have decoded : String.fromUTF8? text.toUTF8 = some text := by
    simp only [String.fromUTF8?, Option.dite_none_right_eq_some]
    exact ⟨text.isValidUTF8, rfl⟩
  unfold ofText FileContent.text
  dsimp only
  rw [decoded]

theorem text_eq_error_iff (content : FileContent) (failure : Failure) :
    content.text = .error failure ↔
      (content = none ∧ failure = .io (systemErrorMessage 2)) ∨
      ∃ bytes, content = some bytes ∧ String.fromUTF8? bytes = none ∧
        failure = .io "stream did not contain valid UTF-8" := by
  unfold text
  cases content with
  | none => simp [eq_comm]
  | some bytes => cases decoded : String.fromUTF8? bytes <;> simp [decoded, eq_comm]

/-- A file is refused for the first reason that applies, and for no other. -/
theorem managed_eq_error_iff (content : FileContent) (failure : Failure) :
    content.managed = .error failure ↔ content.Defective failure := by
  unfold managed
  simp only [bind_eq_error_iff, text_eq_error_iff, Manifest.parse_eq_error_iff, pure, Except.pure,
    reduceCtorEq, and_false, exists_false, or_false]
  constructor
  · rintro ((⟨absent, rfl⟩ | ⟨bytes, present, undecodable, rfl⟩) |
      ⟨text, read, ⟨problem, malformed, rfl⟩ | ⟨manifest, accepted, misnamed⟩⟩)
    · exact .missing absent
    · exact .undecodable present undecodable
    · exact .malformed read malformed
    · exact .misnamed read accepted misnamed
  · intro defective
    cases defective with
    | missing absent => exact .inl (.inl ⟨absent, rfl⟩)
    | undecodable present undecodable => exact .inl (.inr ⟨_, present, undecodable, rfl⟩)
    | malformed read malformed => exact .inr ⟨_, read, .inl ⟨_, malformed, rfl⟩⟩
    | misnamed read accepted misnamed => exact .inr ⟨_, read, .inr ⟨_, accepted, misnamed⟩⟩

end FileContent

end Registrar
