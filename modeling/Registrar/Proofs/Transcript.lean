import Registrar.Interaction
/-!
# Transcripts

What a program did in one run is its transcript: the questions in the order in which they were
asked, each with the reply that came. A program yields a value along a transcript whatever the
replies are, so a statement about all transcripts holds for all collaborators, also for those that
change their minds from one question to the next.

Four things are related to transcripts here: sequencing of programs, carrying out the questions of
one conversation by another one, answering them from a state, and two runs of one program.
-/

set_option autoImplicit false

namespace Registrar

/-- A question that was asked, and the reply to it. -/
structure Exchange (signature : Signature) where
  question : signature.Question
  reply : signature.Reply question

/-- The exchanges of a run, in order. -/
abbrev Transcript (signature : Signature) :=
  List (Exchange signature)

namespace Interaction

variable {signature other : Signature} {α β : Type}

/-- The program can be run to its end along a transcript, and yields a value there. -/
inductive Yields : Interaction signature α → Transcript signature → α → Prop where
  | done (value : α) : Yields (.done value) [] value
  | ask {question : signature.Question} {reply : signature.Reply question}
      {resume : signature.Reply question → Interaction signature α}
      {rest : Transcript signature} {value : α} :
      Yields (resume reply) rest value →
      Yields (.ask question resume) (⟨question, reply⟩ :: rest) value

@[simp]
theorem yields_done_iff (value result : α) (transcript : Transcript signature) :
    (done value : Interaction signature α).Yields transcript result ↔
      transcript = [] ∧ result = value := by
  constructor
  · intro run
    cases run
    exact ⟨rfl, rfl⟩
  · intro assembled
    obtain ⟨rfl, rfl⟩ := assembled
    exact .done result

theorem yields_ask_iff (question : signature.Question)
    (resume : signature.Reply question → Interaction signature α)
    (transcript : Transcript signature) (result : α) :
    (ask question resume).Yields transcript result ↔
      ∃ reply rest, transcript = ⟨question, reply⟩ :: rest ∧ (resume reply).Yields rest result := by
  constructor
  · intro run
    cases run with
    | ask continued => exact ⟨_, _, rfl, continued⟩
  · intro assembled
    obtain ⟨reply, rest, rfl, continued⟩ := assembled
    exact .ask continued

/-- A run of two programs in sequence is a run of the first one followed by a run of the second. -/
theorem yields_bind_iff (program : Interaction signature α) (next : α → Interaction signature β)
    (transcript : Transcript signature) (result : β) :
    (program >>= next).Yields transcript result ↔
      ∃ first value last, transcript = first ++ last ∧ program.Yields first value ∧
        (next value).Yields last result := by
  induction program generalizing transcript with
  | done value =>
      simp only [done_bind, yields_done_iff]
      constructor
      · intro run
        exact ⟨[], value, transcript, rfl, ⟨rfl, rfl⟩, run⟩
      · intro assembled
        obtain ⟨first, yielded, last, rfl, ⟨rfl, rfl⟩, run⟩ := assembled
        exact run
  | ask question resume ih =>
      simp only [ask_bind, yields_ask_iff]
      constructor
      · intro ran
        obtain ⟨reply, rest, rfl, continued⟩ := ran
        obtain ⟨first, value, last, rfl, before, after⟩ := (ih reply rest).mp continued
        exact ⟨⟨question, reply⟩ :: first, value, last, rfl, ⟨reply, first, rfl, before⟩, after⟩
      · intro assembled
        obtain ⟨first, value, last, rfl, ⟨reply, rest, rfl, before⟩, after⟩ := assembled
        exact ⟨reply, rest ++ last, rfl, (ih reply _).mpr ⟨rest, value, last, rfl, before, after⟩⟩

/-- Nothing but one question is asked along one exchange. -/
theorem yields_request_iff (question : signature.Question) (transcript : Transcript signature)
    (reply : signature.Reply question) :
    (ask question done : Interaction signature (signature.Reply question)).Yields transcript reply ↔
      transcript = [⟨question, reply⟩] := by
  rw [yields_ask_iff]
  constructor
  · intro ran
    obtain ⟨other, rest, rfl, run⟩ := ran
    obtain ⟨rfl, rfl⟩ := (yields_done_iff _ _ _).mp run
    rfl
  · intro same
    subst same
    exact ⟨reply, [], rfl, .done reply⟩

/-- A program that starts with one question has its exchange at the head of its transcripts. -/
theorem yields_request_bind_iff (question : signature.Question)
    (next : signature.Reply question → Interaction signature α)
    (transcript : Transcript signature) (result : α) :
    ((ask question done : Interaction signature (signature.Reply question)) >>= next).Yields
        transcript result ↔
      ∃ reply rest, transcript = ⟨question, reply⟩ :: rest ∧ (next reply).Yields rest result :=
  yields_ask_iff question next transcript result

/-! ## One value after the other -/

section Each

variable {ι κ σ ρ δ : Type} {one : ι → Interaction signature ρ}
  {each : List ι → Interaction signature δ} {blank : δ} {join : ρ → δ → δ} {key : ι → κ}
  {subject : σ → κ} {exchanges : σ → Transcript signature} {tell : σ → ρ}

/-- If a program takes up values in order and the runs for one value are known steps, its runs are
the lists of such steps, one for each value: nothing that a step tells keeps the next one back. -/
theorem yields_each_iff
    (each_cons : ∀ value rest, each (value :: rest) =
      one value >>= fun first => each rest >>= fun others => done (join first others))
    (each_nil : each [] = done blank)
    (one_iff : ∀ value transcript result, (one value).Yields transcript result ↔
      ∃ step, subject step = key value ∧ transcript = exchanges step ∧ result = tell step)
    (values : List ι) (transcript : Transcript signature) (result : δ) :
    (each values).Yields transcript result ↔
      ∃ steps : List σ, steps.map subject = values.map key ∧
        transcript = steps.flatMap exchanges ∧
        result = steps.foldr (fun step others => join (tell step) others) blank := by
  induction values generalizing transcript result with
  | nil =>
      rw [each_nil, yields_done_iff]
      constructor
      · rintro ⟨rfl, rfl⟩
        exact ⟨[], rfl, rfl, rfl⟩
      · rintro ⟨steps, none, rfl, rfl⟩
        cases List.map_eq_nil_iff.mp none
        exact ⟨rfl, rfl⟩
  | cons value rest ih =>
      simp only [each_cons, yields_bind_iff, one_iff, ih, yields_done_iff]
      constructor
      · rintro ⟨_, _, _, rfl, ⟨step, about, rfl, rfl⟩, _, _, _, rfl, ⟨steps, others, rfl, rfl⟩, rfl,
          rfl⟩
        exact ⟨step :: steps, by simp [about, others], by simp, rfl⟩
      · rintro ⟨steps, about, rfl, rfl⟩
        cases steps with
        | nil => cases about
        | cons step steps =>
            obtain ⟨head, tail⟩ := List.cons_eq_cons.mp about
            exact ⟨_, _, _, rfl, ⟨step, head, rfl, rfl⟩, _, _, [], by simp [List.flatMap_def],
              ⟨steps, tail, rfl, rfl⟩, rfl, rfl⟩

end Each

theorem foldr_toList_append {σ δ : Type} (tell : σ → Option δ) (steps : List σ) :
    steps.foldr (fun step others => (tell step).toList ++ others) [] = steps.filterMap tell := by
  induction steps with
  | nil => rfl
  | cons step rest ih => cases told : tell step <;> simp [ih, told]

/-! ## Runs on their way -/

/-- A program that is run along a transcript comes to a rest of it. -/
inductive Leads :
    Interaction signature α → Transcript signature → Interaction signature α → Prop where
  | stay (program : Interaction signature α) : Leads program [] program
  | ask {question : signature.Question} {reply : signature.Reply question}
      {resume : signature.Reply question → Interaction signature α}
      {transcript : Transcript signature} {rest : Interaction signature α} :
      Leads (resume reply) transcript rest →
      Leads (.ask question resume) (⟨question, reply⟩ :: transcript) rest

/-- One more question of a run is answered. -/
theorem Leads.answered {program : Interaction signature α} {transcript : Transcript signature}
    {question : signature.Question} {resume : signature.Reply question → Interaction signature α}
    (leads : program.Leads transcript (.ask question resume))
    (reply : signature.Reply question) :
    program.Leads (transcript ++ [⟨question, reply⟩]) (resume reply) := by
  generalize reached : Interaction.ask question resume = rest at leads
  induction leads with
  | stay program =>
      subst reached
      exact .ask (.stay _)
  | ask _ ih => exact .ask (ih reached)

/-- Where a run has come to decides whether the program yields a value there. -/
theorem Leads.yields_iff {program rest : Interaction signature α}
    {transcript : Transcript signature} (leads : program.Leads transcript rest) (value : α) :
    program.Yields transcript value ↔ rest = .done value := by
  induction leads with
  | stay program =>
      cases program with
      | done result => simp [eq_comm]
      | ask question resume => simp [yields_ask_iff]
  | ask _ ih =>
      refine Iff.trans ?_ ih
      constructor
      · intro run
        cases run with
        | ask continued => exact continued
      · exact Yields.ask

end Interaction

/-! ## Exchanges and what came before them -/

namespace Transcript

variable {signature : Signature}

/-- Every exchange of a transcript has a property together with the exchanges before it, of which
those in `past` came first. -/
def Justified (property : Transcript signature → Exchange signature → Prop) :
    Transcript signature → Transcript signature → Prop
  | _, [] => True
  | past, exchange :: rest =>
      property past exchange ∧ Justified property (past ++ [exchange]) rest

theorem justified_append (property : Transcript signature → Exchange signature → Prop)
    (past first last : Transcript signature) :
    Justified property past (first ++ last) ↔
      Justified property past first ∧ Justified property (past ++ first) last := by
  induction first generalizing past with
  | nil => simp [Justified]
  | cons exchange first ih => simp [Justified, ih, and_assoc]

/-- The property holds wherever the transcript is split at an exchange. -/
theorem Justified.of_split {property : Transcript signature → Exchange signature → Prop}
    {transcript : Transcript signature} (justified : Justified property [] transcript)
    {before after : Transcript signature} {exchange : Exchange signature}
    (split : transcript = before ++ exchange :: after) : property before exchange := by
  subst split
  exact ((justified_append property [] before _).mp justified).2.1

/-- A property that holds of exchanges after any extension of the past holds all along. -/
theorem justified_of_extensions {property : Transcript signature → Exchange signature → Prop}
    {past transcript : Transcript signature}
    (holds : ∀ exchange ∈ transcript, ∀ later, property (past ++ later) exchange) :
    Justified property past transcript := by
  induction transcript generalizing past with
  | nil => trivial
  | cons exchange rest ih =>
      refine ⟨by simpa using holds exchange (.head _) [], ih ?_⟩
      intro other member later
      rw [List.append_assoc]
      exact holds other (.tail _ member) _

end Transcript

/-! ## Conversations carried out by others -/

namespace Interaction

variable {signature other : Signature} {α β : Type}

/-- A transcript carries out another one: exchange by exchange, the reply is what `answer` yields
along the next part. -/
inductive CarriesOut
    (answer : (question : signature.Question) → Interaction other (signature.Reply question)) :
    Transcript signature → Transcript other → Prop where
  | nil : CarriesOut answer [] []
  | cons {question : signature.Question} {reply : signature.Reply question}
      {outer : Transcript signature} {inner rest : Transcript other} :
      (answer question).Yields inner reply → CarriesOut answer outer rest →
      CarriesOut answer (⟨question, reply⟩ :: outer) (inner ++ rest)

variable {answer : (question : signature.Question) → Interaction other (signature.Reply question)}

/-- The runs of a translated program are those that carry out a run of the program. -/
theorem yields_translate_iff (program : Interaction signature α) (transcript : Transcript other)
    (result : α) :
    (program.translate answer).Yields transcript result ↔
      ∃ outer, program.Yields outer result ∧ CarriesOut answer outer transcript := by
  unfold translate
  induction program generalizing transcript with
  | done value =>
      simp only [interpret, pure_eq_done, yields_done_iff]
      constructor
      · intro ran
        obtain ⟨rfl, rfl⟩ := ran
        exact ⟨[], ⟨rfl, rfl⟩, .nil⟩
      · intro assembled
        obtain ⟨outer, ⟨rfl, rfl⟩, carried⟩ := assembled
        cases carried
        exact ⟨rfl, rfl⟩
  | ask question resume ih =>
      simp only [interpret, yields_bind_iff, yields_ask_iff]
      constructor
      · intro ran
        obtain ⟨inner, reply, rest, rfl, answered, continued⟩ := ran
        obtain ⟨outer, run, carried⟩ := (ih reply rest).mp continued
        exact ⟨⟨question, reply⟩ :: outer, ⟨reply, outer, rfl, run⟩, .cons answered carried⟩
      · intro assembled
        obtain ⟨outer, ⟨reply, later, rfl, run⟩, carried⟩ := assembled
        cases carried with
        | cons answered carried =>
            exact ⟨_, reply, _, rfl, answered, (ih reply _).mpr ⟨later, run, carried⟩⟩

theorem CarriesOut.append_inv {first last : Transcript signature} {inner : Transcript other}
    (carried : CarriesOut answer (first ++ last) inner) :
    ∃ innerFirst innerLast, inner = innerFirst ++ innerLast ∧
      CarriesOut answer first innerFirst ∧ CarriesOut answer last innerLast := by
  induction first generalizing inner with
  | nil => exact ⟨[], inner, rfl, .nil, carried⟩
  | cons exchange first ih =>
      cases carried with
      | cons answered carried =>
          obtain ⟨innerFirst, innerLast, rfl, before, after⟩ := ih carried
          exact ⟨_, innerLast, (List.append_assoc _ _ _).symm, .cons answered before, after⟩

theorem CarriesOut.single {question : signature.Question} {reply : signature.Reply question}
    {inner : Transcript other} (answered : (answer question).Yields inner reply) :
    CarriesOut answer [⟨question, reply⟩] inner := by
  simpa using CarriesOut.cons answered .nil

theorem CarriesOut.append {first last : Transcript signature}
    {innerFirst innerLast : Transcript other} (before : CarriesOut answer first innerFirst)
    (after : CarriesOut answer last innerLast) :
    CarriesOut answer (first ++ last) (innerFirst ++ innerLast) := by
  induction before with
  | nil => exact after
  | cons answered _ ih =>
      rw [List.append_assoc]
      exact .cons answered ih

/-- If every question is carried out by one exchange, the conversations match exchange by exchange. -/
theorem CarriesOut.eq_map {outer : Transcript signature} {transcript : Transcript other}
    (carried : CarriesOut answer outer transcript) (image : Exchange signature → Exchange other)
    (single : ∀ exchange ∈ outer, ∀ inner,
      (answer exchange.question).Yields inner exchange.reply → inner = [image exchange]) :
    transcript = outer.map image := by
  induction carried with
  | nil => rfl
  | cons answered _ ih =>
      obtain ⟨here, later⟩ := List.forall_mem_cons.mp single
      rw [here _ answered, ih later]
      rfl

/-- Carrying out a conversation in two stages is carrying it out at once. -/
theorem translate_translate {last : Signature} (program : Interaction signature α)
    (inner : (question : other.Question) → Interaction last (other.Reply question)) :
    (program.translate answer).translate inner =
      program.translate fun question => (answer question).translate inner := by
  unfold translate
  induction program with
  | done value => rfl
  | ask question resume ih => simp only [interpret, interpret_bind, ih]

/-! ## Answers from a state -/

variable {σ : Type}

/-- A state answers the questions of a transcript with just these replies, and ends in another
state. -/
inductive Follows (handler : (question : signature.Question) → StateM σ (signature.Reply question)) :
    σ → Transcript signature → σ → Prop where
  | nil (state : σ) : Follows handler state [] state
  | cons {question : signature.Question} {reply : signature.Reply question}
      {first next last : σ} {rest : Transcript signature} :
      (handler question).run first = (reply, next) → Follows handler next rest last →
      Follows handler first (⟨question, reply⟩ :: rest) last

variable {handler : (question : signature.Question) → StateM σ (signature.Reply question)}

/-- The transcript of a program that runs in a state. -/
def transcriptIn (handler : (question : signature.Question) → StateM σ (signature.Reply question)) :
    Interaction signature α → σ → Transcript signature
  | done _, _ => []
  | ask question resume, state =>
      ⟨question, ((handler question).run state).1⟩ ::
        (resume ((handler question).run state).1).transcriptIn handler
          ((handler question).run state).2

theorem yields_transcriptIn (program : Interaction signature α) (state : σ) :
    program.Yields (program.transcriptIn handler state)
      ((program.interpret handler).run state).1 := by
  induction program generalizing state with
  | done value => exact .done value
  | ask question resume ih =>
      exact .ask (ih ((handler question).run state).1 ((handler question).run state).2)

theorem follows_transcriptIn (program : Interaction signature α) (state : σ) :
    Follows handler state (program.transcriptIn handler state)
      ((program.interpret handler).run state).2 := by
  induction program generalizing state with
  | done value => exact .nil state
  | ask question resume ih =>
      exact .cons rfl (ih ((handler question).run state).1 ((handler question).run state).2)

/-- A program that runs in a state does so along some transcript that the state follows. -/
theorem exists_yields_follows (program : Interaction signature α) (state : σ) :
    ∃ transcript, program.Yields transcript ((program.interpret handler).run state).1 ∧
      Follows handler state transcript ((program.interpret handler).run state).2 :=
  ⟨_, yields_transcriptIn program state, follows_transcriptIn program state⟩

/-- A program in sequence goes on in the state in which the first one has ended. -/
theorem run_interpret_bind (program : Interaction signature α) (next : α → Interaction signature β)
    (state : σ) :
    ((program >>= next).interpret handler).run state =
      ((next ((program.interpret handler).run state).1).interpret handler).run
        ((program.interpret handler).run state).2 := by
  rw [interpret_bind]
  rfl

/-- A state follows one run of a program, so any run that it follows is the one. -/
theorem eq_of_yields_follows {program : Interaction signature α}
    {transcript : Transcript signature} {value : α} {state final : σ}
    (yields : program.Yields transcript value) (follows : Follows handler state transcript final) :
    program.transcriptIn handler state = transcript ∧
      (program.interpret handler).run state = (value, final) := by
  induction yields generalizing state with
  | done value =>
      cases follows
      exact ⟨rfl, rfl⟩
  | @ask question reply resume rest value yields ih =>
      cases follows with
      | @cons _ _ _ next _ _ answered follows =>
          obtain ⟨transcripts, ran⟩ := ih follows
          have unfolded : ((ask question resume).interpret handler).run state =
              ((resume ((handler question).run state).1).interpret handler).run
                ((handler question).run state).2 := rfl
          rw [transcriptIn, unfolded, answered]
          exact ⟨congrArg (_ :: ·) transcripts, ran⟩

theorem follows_nil_iff {first last : σ} :
    Follows handler first ([] : Transcript signature) last ↔ last = first := by
  constructor
  · intro followed
    cases followed
    rfl
  · intro same
    subst same
    exact .nil last

/-- The reply to the first question, and where it leads, are told by the state. -/
theorem follows_cons_iff {question : signature.Question} {reply : signature.Reply question}
    {rest : Transcript signature} {first last : σ} :
    Follows handler first (⟨question, reply⟩ :: rest) last ↔
      ((handler question).run first).1 = reply ∧
        Follows handler ((handler question).run first).2 rest last := by
  constructor
  · intro followed
    cases followed with
    | cons answered later =>
        rw [answered]
        exact ⟨rfl, later⟩
  · intro assembled
    obtain ⟨rfl, later⟩ := assembled
    exact .cons rfl later

theorem follows_append_iff {first last : Transcript signature} {state final : σ} :
    Follows handler state (first ++ last) final ↔
      ∃ middle, Follows handler state first middle ∧ Follows handler middle last final := by
  constructor
  · intro followed
    induction first generalizing state with
    | nil => exact ⟨state, .nil state, followed⟩
    | cons exchange first ih =>
        cases followed with
        | cons answered followed =>
            obtain ⟨middle, before, after⟩ := ih followed
            exact ⟨middle, .cons answered before, after⟩
  · intro assembled
    obtain ⟨middle, before, after⟩ := assembled
    induction before with
    | nil state => exact after
    | cons answered _ ih => exact .cons answered (ih after)

/-- What the handler guarantees for each of its replies holds of every exchange. -/
theorem Follows.forall_mem {property : Exchange signature → Prop}
    (guaranteed : ∀ question state, property ⟨question, ((handler question).run state).1⟩)
    {transcript : Transcript signature} {first last : σ}
    (followed : Follows handler first transcript last) :
    ∀ exchange ∈ transcript, property exchange := by
  induction followed with
  | nil state =>
      intro exchange member
      cases member
  | @cons question reply first next last rest answered _ ih =>
      have told := guaranteed question first
      rw [answered] at told
      exact List.forall_mem_cons.mpr ⟨told, ih⟩

/-- What no question of a transcript touches is as before in the end. -/
theorem Follows.view_eq {β : Type} (view : σ → β) (harmless : signature.Question → Prop)
    (kept : ∀ question, harmless question →
      ∀ state, view ((handler question).run state).2 = view state)
    {transcript : Transcript signature} {first last : σ}
    (followed : Follows handler first transcript last)
    (all : ∀ exchange ∈ transcript, harmless exchange.question) : view last = view first := by
  induction followed with
  | nil state => rfl
  | @cons question reply first next last rest answered _ ih =>
      obtain ⟨here, later⟩ := List.forall_mem_cons.mp all
      have moved := kept question here first
      rw [answered] at moved
      exact (ih later).trans moved

/-- Replies that depend on nothing but the question lead a program along one of its runs. -/
theorem exists_yields_of_replies (reply : (question : signature.Question) → signature.Reply question)
    (program : Interaction signature α) :
    ∃ transcript, program.Yields transcript (Id.run (program.interpret reply)) ∧
      ∀ exchange ∈ transcript, exchange.reply = reply exchange.question := by
  induction program with
  | done value => exact ⟨[], .done value, List.forall_mem_nil _⟩
  | ask question resume ih =>
      obtain ⟨transcript, run, told⟩ := ih (reply question)
      exact ⟨⟨question, reply question⟩ :: transcript, .ask run, List.forall_mem_cons.mpr ⟨rfl, told⟩⟩

/-! ## Two runs -/

/-- Two handlers that move the state alike run a program alike, up to the first question to which
they reply differently. -/
theorem agree_or_part
    {left right : (question : signature.Question) → StateM σ (signature.Reply question)}
    (alike : ∀ question state, ((left question).run state).2 = ((right question).run state).2)
    (program : Interaction signature α) (state : σ) :
    (program.transcriptIn left state = program.transcriptIn right state ∧
        (program.interpret left).run state = (program.interpret right).run state) ∨
      ∃ common question middle leftRest rightRest,
        ((left question).run middle).1 ≠ ((right question).run middle).1 ∧
        program.transcriptIn left state =
          common ++ ⟨question, ((left question).run middle).1⟩ :: leftRest ∧
        program.transcriptIn right state =
          common ++ ⟨question, ((right question).run middle).1⟩ :: rightRest ∧
        Follows left middle (⟨question, ((left question).run middle).1⟩ :: leftRest)
          ((program.interpret left).run state).2 ∧
        Follows right middle (⟨question, ((right question).run middle).1⟩ :: rightRest)
          ((program.interpret right).run state).2 := by
  induction program generalizing state with
  | done value => exact .inl ⟨rfl, rfl⟩
  | ask question resume ih =>
      by_cases same : ((left question).run state).1 = ((right question).run state).1
      · have answered : (left question).run state = (right question).run state :=
          Prod.ext same (alike question state)
        have unfolded : ∀ handler : (question : signature.Question) →
            StateM σ (signature.Reply question),
            ((ask question resume).interpret handler).run state =
              ((resume ((handler question).run state).1).interpret handler).run
                ((handler question).run state).2 := fun _ => rfl
        rw [unfolded, unfolded, transcriptIn, transcriptIn, ← answered]
        rcases ih ((left question).run state).1 ((left question).run state).2 with
          ⟨transcripts, runs⟩ | ⟨common, other, middle, leftRest, rightRest, parted, first, last,
            firstFollowed, lastFollowed⟩
        · exact .inl ⟨congrArg (_ :: ·) transcripts, runs⟩
        · exact .inr ⟨_ :: common, other, middle, leftRest, rightRest, parted,
            congrArg (_ :: ·) first, congrArg (_ :: ·) last, firstFollowed, lastFollowed⟩
      · exact .inr ⟨[], question, state, _, _, same, rfl, rfl,
          follows_transcriptIn (ask question resume) state,
          follows_transcriptIn (ask question resume) state⟩

end Interaction

end Registrar
