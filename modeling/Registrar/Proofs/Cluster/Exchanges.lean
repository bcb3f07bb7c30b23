import Registrar.Cluster.Client
import Registrar.Proofs.Transcript
/-!
# Exchanges with the API server

What the runs of an operator tell of the requests that were sent, and which requests can be sent: a
target that can be read stays readable when admissible characters follow.
-/

set_option autoImplicit false

namespace Registrar

namespace Api

/-! ## Targets -/

namespace Target

/-- What stands before the parameters holds only what a path may hold, and the rest only what
parameters may hold. -/
def Admissible (whole : List Char) : Prop :=
  (whole.takeWhile (· ≠ '?')).all isPathChar = true ∧
    ((whole.dropWhile (· ≠ '?')).drop 1).all isParameterChar = true

theorem isSome_parse?_iff (text : String) :
    (parse? text).isSome = true ↔ Admissible (text.toList.takeWhile (· ≠ '#')) := by
  unfold parse? Admissible
  dsimp only
  rw [← Bool.and_eq_true]
  split
  · next admitted => exact iff_of_true rfl admitted
  · next refused => exact iff_of_false (by simp) refused

/-- More characters can follow, if they may stand in a path up to the first question mark and in
parameters anyway. -/
theorem Admissible.append {whole more : List Char} (admissible : Admissible whole)
    (path : (more.takeWhile (· ≠ '?')).all isPathChar = true)
    (parameters : more.all isParameterChar = true) : Admissible (whole ++ more) := by
  obtain ⟨before, after⟩ := admissible
  constructor
  · rw [List.takeWhile_append]
    split
    · next unended =>
        have same := (List.takeWhile_prefix (· ≠ '?')).eq_of_length unended
        rw [same] at before
        rw [List.all_append, before, path]
        rfl
    · exact before
  · rw [List.dropWhile_append]
    split
    · have further : ((more.dropWhile (· ≠ '?')).drop 1).Sublist more :=
        (List.drop_sublist 1 _).trans (List.dropWhile_sublist _)
      refine List.all_eq_true.mpr fun c member => ?_
      exact List.all_eq_true.mp parameters c (further.subset member)
    · next marked =>
        cases rest : whole.dropWhile (· ≠ '?') with
        | nil => exact absurd (by rw [rest]; rfl) marked
        | cons mark rest' =>
            rw [rest] at after
            rw [List.cons_append, List.drop_succ_cons, List.drop_zero, List.all_append, parameters]
            simpa using after

theorem isSome_parse?_append {text more : String} (readable : (parse? text).isSome = true)
    (unended : more.toList.takeWhile (· ≠ '#') = more.toList)
    (path : (more.toList.takeWhile (· ≠ '?')).all isPathChar = true)
    (parameters : more.toList.all isParameterChar = true) :
    (parse? (text ++ more)).isSome = true := by
  rw [isSome_parse?_iff] at readable ⊢
  rw [String.toList_append, List.takeWhile_append]
  split
  · next unmarked =>
      rw [(List.takeWhile_prefix (· ≠ '#')).eq_of_length unmarked] at readable
      rw [unended]
      exact readable.append path parameters
  · exact readable

end Target

end Api

namespace Cluster

open Api (Request Response)

/-! ## What a run tells -/

/-- The requests that were sent, with what came back. -/
def sent (transcript : Transcript questions) : List (Request × Except String Response) :=
  transcript.filterMap fun
    | ⟨.exchange request, reply⟩ => some (request, reply)
    | _ => none

/-- The readings of the clock. -/
def readings (transcript : Transcript questions) : List String :=
  transcript.filterMap fun
    | ⟨.now, now⟩ => some now
    | _ => none

theorem sent_append (first last : Transcript questions) :
    sent (first ++ last) = sent first ++ sent last :=
  List.filterMap_append

theorem readings_append (first last : Transcript questions) :
    readings (first ++ last) = readings first ++ readings last :=
  List.filterMap_append

/-! ## Requests and their outcomes -/

theorem yields_ask_iff (question : Question) (transcript : Transcript questions)
    (reply : question.Reply) :
    (ask question).Yields transcript reply ↔ transcript = [⟨question, reply⟩] :=
  @Interaction.yields_request_iff questions question transcript reply

/-- A request that can be built is sent once, and one that cannot is not sent at all. -/
theorem perform_yields_iff {α : Type} (request : Except ClusterFailure Request)
    (read : Json → Decoded α) (transcript : Transcript questions)
    (result : Except ClusterFailure α) :
    (perform request read).Yields transcript result ↔
      match request with
      | .error failure => transcript = [] ∧ result = .error failure
      | .ok request =>
          ∃ reply, transcript = [⟨.exchange request, reply⟩] ∧ result = outcome read reply := by
  cases request with
  | error failure => exact Interaction.yields_done_iff _ _ _
  | ok request =>
      unfold perform
      dsimp only
      rw [Interaction.yields_bind_iff]
      constructor
      · intro ran
        obtain ⟨_, reply, _, rfl, asked, ended⟩ := ran
        obtain rfl := (yields_ask_iff (.exchange request) _ _).mp asked
        obtain ⟨rfl, rfl⟩ := (Interaction.yields_done_iff _ _ _).mp ended
        exact ⟨reply, rfl, rfl⟩
      · intro assembled
        obtain ⟨reply, rfl, rfl⟩ := assembled
        exact ⟨_, reply, [], rfl, (yields_ask_iff (.exchange request) _ _).mpr rfl, .done _⟩

theorem outcome_of_accepted {α : Type} {read : Json → Decoded α} {response : Response}
    {value : Json} {object : α} (accepted : accept response = .ok value)
    (readable : read value = .ok object) : outcome read (.ok response) = .ok object := by
  unfold outcome
  dsimp only
  rw [accepted]
  exact congrArg (Except.mapError _) readable

end Cluster

end Registrar
