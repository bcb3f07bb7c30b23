import Mathlib.Data.List.TakeWhile
import Registrar.Proofs.Cluster.ApplyRequests
import Registrar.Proofs.Division
import Registrar.Proofs.Opening
import Registrar.Proofs.RoundTrip.Objects
import Registrar.Proofs.Verdict
/-!
# What discovery is asked and what it lacks

Discovery is asked for one version after the other. What came of a request is told in one message,
or in none if the version is served, whatever came of the other requests. A message names a
registration of which the request says nothing. It is the right one all the same: a manifest is
accepted only if the name of every registration can be put together from its version and group.
-/

set_option autoImplicit false

namespace Registrar

namespace Api

theorem Target.parse?_plain {path : String} (characters : path.toList.all isPathChar = true) :
    Target.parse? path = some ⟨path, []⟩ := by
  have inPath : ∀ c ∈ path.toList, c ≠ '#' ∧ c ≠ '?' := fun c member =>
    ne_of_isPathChar (List.all_eq_true.mp characters c member)
  have whole : path.toList.takeWhile (· ≠ '#') = path.toList :=
    List.takeWhile_eq_self_iff.mpr fun c member => decide_eq_true (inPath c member).1
  have unmarked : path.toList.takeWhile (· ≠ '?') = path.toList :=
    List.takeWhile_eq_self_iff.mpr fun c member => decide_eq_true (inPath c member).2
  have nothing : path.toList.dropWhile (· ≠ '?') = [] :=
    List.dropWhile_eq_nil_iff.mpr fun c member => decide_eq_true (inPath c member).2
  unfold Target.parse?
  dsimp only
  rw [whole, unmarked, nothing]
  simp [characters, splitAt]

theorem Request.discover_of_plain {version : GroupVersion}
    (characters : version.describe.toList.all isPathChar = true) :
    Request.discover version = .ok ⟨.get, ⟨"/apis/" ++ version.describe, []⟩, none, none⟩ := by
  have path : ("/apis/" ++ version.describe).toList.all isPathChar = true := by
    rw [String.toList_append, List.all_append, characters]
    decide
  unfold Request.discover build
  dsimp only
  rw [if_pos (by decide), String.append_empty, Target.parse?_plain path]
  rfl

end Api

namespace Cluster

open Api
open Registrar.Cycle (Attempt groupVersions syncEnabled unavailableMessage? verdict Verified
  groupVersions_increasing mem_groupVersions syncEnabled_yields_iff)

/-! ## Inquiries -/

/-- Discovery is asked for a version. The reply does not matter if no request can be built. -/
structure Inquiry where
  version : GroupVersion
  reply : Except String Response

namespace Inquiry

def transcript (inquiry : Inquiry) : Transcript questions :=
  match Request.discover inquiry.version with
  | .error _ => []
  | .ok request => [⟨.exchange request, inquiry.reply⟩]

def outcome (inquiry : Inquiry) : Except ClusterFailure Unit :=
  Request.discover inquiry.version >>= fun _ => Cluster.outcome checkResourceList inquiry.reply

def message (inquiry : Inquiry) : Option String :=
  match inquiry.outcome with
  | .ok () => none
  | .error failure => some (missingMessage inquiry.version failure)

end Inquiry

theorem Inquiry.of_unbuilt {inquiry : Inquiry} {failure : ClusterFailure}
    (unbuilt : Request.discover inquiry.version = .error failure) :
    inquiry.transcript = [] ∧ inquiry.outcome = .error failure := by
  unfold transcript outcome
  rw [unbuilt]
  exact ⟨rfl, rfl⟩

theorem Inquiry.of_built {inquiry : Inquiry} {request : Request}
    (built : Request.discover inquiry.version = .ok request) :
    inquiry.transcript = [⟨.exchange request, inquiry.reply⟩] ∧
      inquiry.outcome = Cluster.outcome checkResourceList inquiry.reply := by
  unfold transcript outcome
  rw [built]
  exact ⟨rfl, rfl⟩

theorem discover_yields_iff (version : GroupVersion) (transcript : Transcript questions)
    (result : Except ClusterFailure Unit) :
    (perform (Request.discover version) checkResourceList).Yields transcript result ↔
      ∃ inquiry : Inquiry, inquiry.version = version ∧ transcript = inquiry.transcript ∧
        result = inquiry.outcome := by
  rw [perform_yields_iff]
  cases built : Request.discover version with
  | error failure =>
      constructor
      · rintro ⟨rfl, rfl⟩
        obtain ⟨silent, failed⟩ := @Inquiry.of_unbuilt ⟨version, .error ""⟩ _ built
        exact ⟨_, rfl, silent.symm, failed.symm⟩
      · rintro ⟨inquiry, rfl, rfl, rfl⟩
        exact Inquiry.of_unbuilt built
  | ok request =>
      constructor
      · rintro ⟨reply, rfl, rfl⟩
        obtain ⟨asked, came⟩ := @Inquiry.of_built ⟨version, reply⟩ _ built
        exact ⟨_, rfl, asked.symm, came.symm⟩
      · rintro ⟨inquiry, rfl, rfl, rfl⟩
        exact ⟨inquiry.reply, Inquiry.of_built built⟩

theorem probeOne_yields_iff (version : GroupVersion) (transcript : Transcript questions)
    (message : Option String) :
    (probeOne version).Yields transcript message ↔
      ∃ inquiry : Inquiry, inquiry.version = version ∧ transcript = inquiry.transcript ∧
        message = inquiry.message := by
  unfold probeOne Inquiry.message
  simp only [Interaction.yields_bind_iff, discover_yields_iff]
  constructor
  · rintro ⟨_, _, _, rfl, ⟨inquiry, rfl, rfl, rfl⟩, ended⟩
    refine ⟨inquiry, rfl, ?_⟩
    cases came : inquiry.outcome <;> rw [came] at ended <;>
      obtain ⟨rfl, rfl⟩ := (Interaction.yields_done_iff _ _ _).mp ended <;>
      exact ⟨List.append_nil _, rfl⟩
  · rintro ⟨inquiry, rfl, rfl, rfl⟩
    refine ⟨_, _, [], (List.append_nil _).symm, ⟨inquiry, rfl, rfl, rfl⟩, ?_⟩
    cases inquiry.outcome <;> exact .done _

/-- A probe takes up every version in order, whatever the earlier replies were. -/
theorem probe_yields_iff (versions : List GroupVersion) (transcript : Transcript questions)
    (messages : List String) :
    (probe versions).Yields transcript messages ↔
      ∃ inquiries : List Inquiry, inquiries.map Inquiry.version = versions ∧
        transcript = inquiries.flatMap Inquiry.transcript ∧
        messages = inquiries.filterMap Inquiry.message := by
  have taken : ∀ version rest, probe (version :: rest) =
      probeOne version >>= fun first => probe rest >>= fun others =>
        .done (first.toList ++ others) := fun _ _ => rfl
  rw [Interaction.yields_each_iff taken rfl probeOne_yields_iff]
  simp only [Interaction.foldr_toList_append, List.map_id']

/-! ## Messages -/

/-- What a message on a registration starts with. -/
def subject (name : String) : String :=
  "apiservices.apiregistration.k8s.io/" ++ name ++ ": not available: "

/-- What is told of a version for which the request has failed. -/
inductive Reports (version : GroupVersion) : ClusterFailure → String → Prop where
  | missing {refusal : Refusal} : refusal.code = 404 ∨ refusal.code = 503 →
      Reports version (.refused refusal) (subject (version.version ++ "." ++ version.group) ++
        version.describe ++ " is missing from discovery: " ++ refusal.message)
  | failed {failure : ClusterFailure} :
      (∀ code, failure.refusalCode? = some code → code ≠ 404 ∧ code ≠ 503) →
      Reports version failure (subject (version.version ++ "." ++ version.group) ++
        "discovery check for " ++ version.describe ++ " failed: " ++ failure.message)

/-- There is one message for every inquiry that has failed, in their order, and no other. -/
inductive Told : List Inquiry → List String → Prop where
  | nil : Told [] []
  | served {inquiry : Inquiry} {inquiries : List Inquiry} {messages : List String} :
      inquiry.outcome = .ok () → Told inquiries messages → Told (inquiry :: inquiries) messages
  | unserved {inquiry : Inquiry} {inquiries : List Inquiry} {failure : ClusterFailure}
      {message : String} {messages : List String} :
      inquiry.outcome = .error failure → Reports inquiry.version failure message →
      Told inquiries messages → Told (inquiry :: inquiries) (message :: messages)

theorem subject_eq (version : GroupVersion) :
    "apiservices.apiregistration.k8s.io/" ++ version.version ++ "." ++ version.group ++
      ": not available: " = subject (version.version ++ "." ++ version.group) := by
  have regrouped : ∀ first second third fourth last : String,
      first ++ second ++ third ++ fourth ++ last = first ++ (second ++ third ++ fourth) ++ last :=
    fun _ _ _ _ _ => by simp only [String.append_assoc]
  exact regrouped _ _ _ _ _

theorem Reports.begins {version : GroupVersion} {failure : ClusterFailure} {message : String}
    (reports : Reports version failure message) :
    ∃ reason, message = subject (version.version ++ "." ++ version.group) ++ reason := by
  have regrouped : ∀ first second third last : String,
      first ++ second ++ third ++ last = first ++ (second ++ third ++ last) :=
    fun _ _ _ _ => by simp only [String.append_assoc]
  cases reports with
  | missing => exact ⟨_, regrouped _ _ _ _⟩
  | failed => exact ⟨_, (congrArg (· ++ _) (regrouped _ _ _ _)).trans String.append_assoc⟩

theorem reports_iff (version : GroupVersion) (failure : ClusterFailure) (message : String) :
    Reports version failure message ↔ message = missingMessage version failure := by
  unfold missingMessage
  dsimp only
  rw [subject_eq]
  constructor
  · intro reports
    cases reports with
    | missing absent => exact (if_pos absent).symm
    | failed other =>
        cases failure with
        | refused refusal => exact (if_neg (not_or.mpr (other refusal.code rfl))).symm
        | _ => rfl
  · rintro rfl
    cases failure with
    | refused refusal =>
        dsimp only
        split
        · next absent => exact .missing absent
        · next other =>
            refine .failed fun code same => ?_
            cases same
            exact not_or.mp other
    | _ => exact .failed fun code none => by cases none

theorem Inquiry.message_of_served {inquiry : Inquiry} (served : inquiry.outcome = .ok ()) :
    inquiry.message = none := by
  unfold message
  rw [served]

theorem Inquiry.message_of_failed {inquiry : Inquiry} {failure : ClusterFailure}
    (failed : inquiry.outcome = .error failure) :
    inquiry.message = some (missingMessage inquiry.version failure) := by
  unfold message
  rw [failed]

theorem told_iff (inquiries : List Inquiry) (messages : List String) :
    Told inquiries messages ↔ messages = inquiries.filterMap Inquiry.message := by
  constructor
  · intro told
    induction told with
    | nil => rfl
    | served served _ ih => rw [List.filterMap_cons_none (Inquiry.message_of_served served), ih]
    | unserved failed reports _ ih =>
        rw [List.filterMap_cons_some (Inquiry.message_of_failed failed), ih,
          (reports_iff _ _ _).mp reports]
  · rintro rfl
    induction inquiries with
    | nil => exact .nil
    | cons inquiry rest ih =>
        cases came : inquiry.outcome with
        | ok =>
            rw [List.filterMap_cons_none (Inquiry.message_of_served came)]
            exact .served came ih
        | error failure =>
            rw [List.filterMap_cons_some (Inquiry.message_of_failed came)]
            exact .unserved came ((reports_iff _ _ _).mpr rfl) ih

theorem Told.eq_nil_iff {inquiries : List Inquiry} {messages : List String}
    (told : Told inquiries messages) :
    messages = [] ↔ ∀ inquiry ∈ inquiries, inquiry.outcome = .ok () := by
  induction told with
  | nil => simp
  | served served _ ih => simp [ih, served]
  | unserved failed => simp [failed]

/-- What a probe asks and tells, whatever the replies are. -/
structure FaithfulProbe (versions : List GroupVersion) : Prop where
  runs_iff : ∀ transcript messages, (probe versions).Yields transcript messages ↔
    ∃ inquiries : List Inquiry, inquiries.map Inquiry.version = versions ∧
      transcript = inquiries.flatMap Inquiry.transcript ∧ Told inquiries messages
  /-- Something is told, and only one thing, whatever has become of the requests. -/
  told : ∀ inquiries : List Inquiry, inquiries.map Inquiry.version = versions →
    ∃! messages, Told inquiries messages
  silent_iff : ∀ inquiries messages, inquiries.map Inquiry.version = versions →
    Told inquiries messages → (messages = [] ↔ ∀ inquiry ∈ inquiries, inquiry.outcome = .ok ())
  /-- The request asks for the version under its own path, if it can stand in a path. -/
  plain : ∀ inquiry : Inquiry, inquiry.version ∈ versions →
    inquiry.version.describe.toList.all isPathChar = true →
    inquiry.transcript =
      [⟨.exchange ⟨.get, ⟨"/apis/" ++ inquiry.version.describe, []⟩, none, none⟩, inquiry.reply⟩]

theorem faithfulProbe (versions : List GroupVersion) : FaithfulProbe versions where
  runs_iff := fun transcript messages => by simp only [probe_yields_iff, told_iff]
  told := fun inquiries _ =>
    ⟨_, (told_iff inquiries _).mpr rfl, fun messages told => (told_iff inquiries messages).mp told⟩
  silent_iff := fun _ _ _ => Told.eq_nil_iff
  plain := fun _ _ characters => (Inquiry.of_built (Request.discover_of_plain characters)).1

/-! ## Names -/

/-- Both kinds of message on a registration that is not served give it the name that it has. -/
structure NamedAlike (registration : Registration) (name : String) : Prop where
  own : registration.metadata.name = some name
  missing : ∀ failure message, Reports registration.groupVersion failure message →
    ∃ reason, message = subject name ++ reason
  /-- The store returns the object under the name under which it was applied. -/
  unavailable : ∀ stored : Registration, stored.name = registration.withDefaults.name →
    ∀ message, unavailableMessage? stored = some message →
      ∃ condition, stored.FirstAvailable condition ∧
        message = subject name ++ condition.message

theorem unavailableMessage?_eq_some {stored : Registration} {message : String}
    (told : unavailableMessage? stored = some message) :
    ∃ condition, stored.FirstAvailable condition ∧
      message = subject stored.name ++ condition.message := by
  unfold unavailableMessage? at told
  split at told
  · cases told
  · next condition present =>
      split at told
      · cases told
      · cases told
        exact ⟨condition, (stored.availableCondition_eq_some_iff condition).mp present, rfl⟩

theorem namedAlike_registration {entry : ManifestEntry} (wellNamed : entry.WellNamed) :
    NamedAlike entry.registration entry.name where
  own := rfl
  missing := by
    intro failure message reports
    rw [show entry.name = entry.spec.version ++ "." ++ entry.spec.group from wellNamed]
    exact reports.begins
  unavailable := by
    intro stored same message told
    rw [show entry.name = stored.name from same.symm]
    exact unavailableMessage?_eq_some told

theorem exists_namedAlike {text : String} {manifest : Manifest}
    (accepted : Manifest.parse text = .ok manifest) {registration : Registration}
    (member : registration ∈ manifest.managed.enabled) :
    ∃ name, NamedAlike registration name := by
  obtain ⟨_, wellNamed⟩ := (Manifest.parse_eq_ok_iff text manifest).mp accepted
  obtain ⟨entry, among, rfl⟩ := List.mem_map.mp member
  exact ⟨entry.name, namedAlike_registration (wellNamed entry (List.mem_of_mem_filter among))⟩

/-! ## The enabled registrations -/

/-- Discovery was asked for the versions of registrations. -/
structure Surveyed (registrations : List Registration) (inquiries : List Inquiry) : Prop where
  once : ∀ registration ∈ registrations,
    (inquiries.map Inquiry.version).count registration.groupVersion = 1
  only : ∀ inquiry ∈ inquiries, ∃ registration ∈ registrations,
    registration.groupVersion = inquiry.version
  ordered : (inquiries.map Inquiry.version).Pairwise GroupVersion.Precedes

/-- How registrations are applied and verified in a cluster. -/
inductive Ended (identity : Identity) (registrations : List Registration) :
    Transcript questions → Except Failure Unit → Prop where
  /-- Some registration could not be applied, or the server calls it unavailable. -/
  | unprobed {attempts : List Attempt} {applying : Transcript questions} {failure : Failure} :
      attempts.map Attempt.registration = registrations →
      Interaction.CarriesOut (carryOut identity) (attempts.flatMap Attempt.transcript) applying →
      (∃ attempt ∈ attempts, attempt.failure.isSome ∨ attempt.message.isSome) →
      Ended identity registrations applying (.error failure)
  | probed {attempts : List Attempt} {applying : Transcript questions}
      {inquiries : List Inquiry} {messages : List String} :
      attempts.map Attempt.registration = registrations →
      Interaction.CarriesOut (carryOut identity) (attempts.flatMap Attempt.transcript) applying →
      Surveyed registrations inquiries → Told inquiries messages →
      Ended identity registrations (applying ++ inquiries.flatMap Inquiry.transcript)
        (verdict messages)

theorem Surveyed.of_asked {registrations : List Registration} {inquiries : List Inquiry}
    (asked : inquiries.map Inquiry.version = groupVersions registrations) :
    Surveyed registrations inquiries where
  once := by
    intro registration member
    rw [asked]
    refine List.count_eq_one_of_mem ?_ ((mem_groupVersions _ _).mpr ⟨registration, member, rfl⟩)
    -- no version comes before itself, so none of them is in the list twice
    refine (Sorted.pairwise_ofList _).imp fun {left right} less same => ?_
    rw [same, @Std.ReflCmp.compare_self _ GroupVersion.compare] at less
    cases less
  only := by
    intro inquiry member
    exact (mem_groupVersions _ _).mp (asked ▸ List.mem_map_of_mem member)
  ordered := asked ▸ groupVersions_increasing registrations

theorem exists_isSome_of_filterMap {α β : Type} {values : List α} {tell : α → Option β}
    (some : values.filterMap tell ≠ []) : ∃ value ∈ values, (tell value).isSome := by
  obtain ⟨told, member⟩ := List.exists_mem_of_ne_nil _ some
  obtain ⟨value, among, told⟩ := List.mem_filterMap.mp member
  exact ⟨value, among, told ▸ rfl⟩

theorem ended_of_yields {identity : Identity} {registrations : List Registration}
    {transcript : Transcript questions} {result : Except Failure Unit}
    (ran : ((syncEnabled true registrations).translate (carryOut identity)).Yields transcript
      result) :
    Ended identity registrations transcript result := by
  obtain ⟨outer, ran, carried⟩ := (Interaction.yields_translate_iff _ _ _).mp ran
  obtain ⟨attempts, verifying, registered, rfl, verified⟩ :=
    (syncEnabled_yields_iff _ _ _ _).mp ran
  cases verified with
  | failed some =>
      obtain ⟨attempt, member, told⟩ := exists_isSome_of_filterMap some
      rw [List.append_nil] at carried
      exact .unprobed registered carried ⟨attempt, member, .inl told⟩
  | unserved none some =>
      obtain ⟨attempt, member, told⟩ := exists_isSome_of_filterMap some
      rw [List.append_nil] at carried
      exact .unprobed registered carried ⟨attempt, member, .inr told⟩
  | unprobed none served unwired => cases unwired
  | probed missing none served wired =>
      -- the probe is the last call, so what carries it out ends the transcript
      obtain ⟨applying, probing, rfl, before, after⟩ := carried.append_inv
      cases after with
      | @cons _ _ _ inner _ answered ended =>
          cases ended
          obtain ⟨inquiries, asked, rfl, told⟩ := ((faithfulProbe _).runs_iff _ _).mp answered
          rw [List.append_nil]
          exact .probed registered before (.of_asked asked) told

/-- A probe asks for each version in order and tells of each one that is not served, of all of them
whatever becomes of the others. If the registrations come from a manifest, the version of each one
is asked for once, and what is told of it gives it the name that it has. -/
theorem discovery_reports_each_once :
    (∀ versions, FaithfulProbe versions) ∧
      ∀ text manifest registrations, Manifest.parse text = .ok manifest →
        (∀ registration ∈ registrations, registration ∈ manifest.managed.enabled) →
        (∀ registration ∈ registrations, ∃ name, NamedAlike registration name) ∧
        ∀ identity transcript result,
          ((syncEnabled true registrations).translate (carryOut identity)).Yields transcript
            result →
          Ended identity registrations transcript result := by
  refine ⟨faithfulProbe, fun text manifest registrations accepted enabled => ⟨?_, ?_⟩⟩
  · exact fun registration member => exists_namedAlike accepted (enabled registration member)
  · exact fun identity transcript result ran => ended_of_yields ran

/-! ### A version that is missing -/

def creating (registration : Registration) : Attempt :=
  ⟨registration, .ok ⟨registration.withDefaults, true⟩⟩

def creatingTranscript (registration : Registration) : Transcript questions :=
  [⟨.cached registration.name, none⟩,
    ⟨.exchange (patchOf registration.withDefaults),
      .ok ⟨200, .json registration.withDefaults.toJson⟩⟩,
    ⟨.observe (.apply true), ()⟩]

theorem ofJson_toJson_entry {entry : ManifestEntry} (ordered : entry.labels.Ordered) :
    Registration.ofJson entry.registration.withDefaults.toJson =
      .ok entry.registration.withDefaults := by
  refine Registration.ofJson_toJson ⟨nofun, fun labels given => ?_, nofun, nofun, nofun⟩ nofun
  cases given
  exact ordered.insert _ _

theorem carriesOut_creating (identity : Identity) {entry : ManifestEntry}
    (plain : PlainName entry.name) (ordered : entry.labels.Ordered) :
    Interaction.CarriesOut (carryOut identity) (creating entry.registration).transcript
      (creatingTranscript entry.registration) := by
  have sent : requestFor entry.registration.withDefaults =
      .ok (patchOf entry.registration.withDefaults) := requestFor_of_plain plain
  have applied : (carryOut identity (.apply entry.registration.withDefaults)).Yields
      [⟨.cached entry.registration.name, none⟩,
        ⟨.exchange (patchOf entry.registration.withDefaults),
          .ok ⟨200, .json entry.registration.withDefaults.toJson⟩⟩]
      (.ok ⟨entry.registration.withDefaults, true⟩) :=
    (applyRegistration_yields_iff_of_built sent _ _).mpr
      ⟨none, _, rfl, .applied (outcome_of_accepted rfl (ofJson_toJson_entry ordered))
        (by simp [SameVersion])⟩
  have counted : (carryOut identity (.observe (.apply true))).Yields
      [⟨.observe (.apply true), ()⟩] () := (yields_ask_iff _ _ _).mpr rfl
  exact (Interaction.CarriesOut.single applied).append
    (@Interaction.CarriesOut.single Cycle.calls _ _ (.observe (.apply true)) _ _ counted)

def twoServices : String :=
  "apiServices:\n- name: v1.users.io\n  spec:\n    group: users.io\n    version: v1\n" ++
  "    groupPriorityMinimum: 1\n    versionPriority: 1\n- name: v1.metrics.io\n  spec:\n" ++
  "    group: metrics.io\n    version: v1\n    groupPriorityMinimum: 1\n    versionPriority: 1\n"

def users : Registration :=
  (Cycle.sampleEntry "v1.users.io" "users.io").registration

def metrics : Registration :=
  (Cycle.sampleEntry "v1.metrics.io" "metrics.io").registration

/-- Discovery does not know the second one, which it is asked for first. -/
def sampleInquiries : List Inquiry :=
  [⟨metrics.groupVersion, .ok ⟨404, .json (.object [("status", .string "Failure"),
      ("message", .string "not served"), ("code", .integer 404)])⟩⟩,
    ⟨users.groupVersion, .ok ⟨200, .json (.object [("kind", .string "APIResourceList"),
      ("apiVersion", .string "v1")])⟩⟩]

def sampleMessage : String :=
  "apiservices.apiregistration.k8s.io/v1.metrics.io: not available: " ++
    "metrics.io/v1 is missing from discovery: not served"

def sampleVerification : Transcript questions :=
  creatingTranscript users ++ creatingTranscript metrics ++
    sampleInquiries.flatMap Inquiry.transcript

theorem told_sampleInquiries : Told sampleInquiries [sampleMessage] := by
  have absent : sampleInquiries[0].outcome =
      .error (.refused ⟨"Failure", "not served", "", 404⟩) :=
    (Inquiry.of_built (Request.discover_of_plain (by decide))).2
  have served : sampleInquiries[1].outcome = .ok () :=
    (Inquiry.of_built (Request.discover_of_plain (by decide))).2
  exact .unserved absent (.missing (.inl rfl)) (.served served .nil)

theorem parse_twoServices : Manifest.parse twoServices =
    .ok ⟨[Cycle.sampleEntry "v1.users.io" "users.io",
      Cycle.sampleEntry "v1.metrics.io" "metrics.io"]⟩ :=
  Cycle.eq_ok_of_toOption (by decide +kernel)

theorem yields_sampleVerification (identity : Identity) :
    ((syncEnabled true [users, metrics]).translate (carryOut identity)).Yields sampleVerification
      (verdict [sampleMessage]) := by
  have asked : groupVersions [users, metrics] = sampleInquiries.map Inquiry.version := by decide
  refine (Interaction.yields_translate_iff _ _ _).mpr
    ⟨[creating users, creating metrics].flatMap Attempt.transcript ++
      [⟨.probe (groupVersions [users, metrics]), [sampleMessage]⟩],
      (syncEnabled_yields_iff _ _ _ _).mpr ⟨_, _, rfl, rfl, .probed _ rfl rfl rfl⟩, ?_⟩
  have probed : (carryOut identity (.probe (groupVersions [users, metrics]))).Yields
      (sampleInquiries.flatMap Inquiry.transcript) [sampleMessage] :=
    ((faithfulProbe _).runs_iff _ _).mpr ⟨_, asked.symm, rfl, told_sampleInquiries⟩
  have first : Interaction.CarriesOut (carryOut identity) (creating users).transcript
      (creatingTranscript users) := carriesOut_creating identity ⟨by decide, by decide⟩ .nil
  have second : Interaction.CarriesOut (carryOut identity) (creating metrics).transcript
      (creatingTranscript metrics) := carriesOut_creating identity ⟨by decide, by decide⟩ .nil
  exact (first.append second).append (.single probed)

theorem discovery_reports_each_once_sample :
    (∀ registration ∈ [users, metrics], ∃ name, NamedAlike registration name) ∧
      Ended default [users, metrics] sampleVerification (verdict [sampleMessage]) ∧
      verdict [sampleMessage] = .error (.unavailable sampleMessage) := by
  have enabled : ∀ registration ∈ [users, metrics], registration ∈ [users, metrics] :=
    fun _ member => member
  obtain ⟨named, ended⟩ := discovery_reports_each_once.2 _ _ _ parse_twoServices enabled
  exact ⟨named, ended _ _ _ (yields_sampleVerification default),
    by simp [verdict, Cycle.unavailable]⟩

end Cluster

end Registrar
