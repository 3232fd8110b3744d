import ChatRelay.Proofs.Generation.Aftermath
import ChatRelay.Proofs.Service.Turns

/-!
# The calls of a generation that goes on

What a generation that goes on with a conversation can call, whatever its calls are
answered. Either it keeps nothing: then it only looks for its conversation, asks
the provider and sends events. Or its caller has heard that the answer is complete,
and between such calls there is one `Trial` of the exchange (`generate_makes`).

What is to be kept can be read off the calls (`kept`), and every step of the trial
that fails is reported at once (`Reported`).
-/

namespace ChatRelay.Generation

open Completion (Message)
open Service (Answered Program StreamItem)
open Service.Program (perform)
open Store (StoreError)
open Title (Decomposition Scanner fragments)

/-- A call that neither changes the store nor reports anything. -/
def IsQuiet : Service.Call → Prop
  | .getConversation _ | .createProvider _ | .stream .. | .deliver _ => True
  | _ => False

/-! ## What is to be kept -/

/-- What the provider has answered. -/
def streamed? : Answered → Option (List StreamItem)
  | ⟨.stream .., items⟩ => some items
  | _ => none

/-- Whether the caller has heard that the answer is complete. -/
def completes : Answered → Bool
  | ⟨.deliver (.outputComplete _), heard⟩ => heard
  | _ => false

/-- The answer of the provider, as it was brought by some calls. -/
def answerOf (calls : List Answered) : String :=
  String.join (texts ((calls.findSome? streamed?).getD []))

/-- What a generation with these calls is to keep: the exchange, if the caller has heard that the
answer is complete, and there is one. -/
def kept (inputs : List Message) (calls : List Answered) : List (Role × String) :=
  if calls.any completes ∧ answerOf calls ≠ "" then
    exchange inputs (Decomposition.ofAnswer (answerOf calls)).stored
  else []

/-! ## What is to be reported -/

/-- What is to be reported of a call that was to keep something of an exchange and has failed. -/
def fault? (uid : String) : Answered → Option Diagnostic
  | ⟨.createMessage _ role _, .error e⟩ =>
    some
      { kind := .messagePersistFailed
        uid := some uid
        detail := s!"failed to save {role.name} message: {StoreError.message e}" }
  | ⟨.updateConversation _, .error e⟩ =>
    some
      { kind := .conversationTouchFailed
        uid := some uid
        detail := "failed to update conversation timestamp: " ++ StoreError.message e }
  | _ => none

/-- Every call that has failed to keep something is reported at once, and nothing else is
reported. -/
inductive Reported (uid : String) : List Answered → Prop where
  | nil : Reported uid []
  | quiet {a : Answered} {calls : List Answered} (hfault : fault? uid a = none)
      (hreport : a.report? = none) (h : Reported uid calls) : Reported uid (a :: calls)
  | fault {a : Answered} {d : Diagnostic} {calls : List Answered} (hfault : fault? uid a = some d)
      (h : Reported uid calls) : Reported uid (a :: reported d :: calls)

namespace Reported

variable {uid : String} {calls calls' : List Answered}

theorem append (h : Reported uid calls) (h' : Reported uid calls') :
    Reported uid (calls ++ calls') := by
  induction h with
  | nil => exact h'
  | quiet hfault hreport _ ih => exact .quiet hfault hreport ih
  | fault hfault _ ih => exact .fault hfault ih

theorem of_quiet (h : ∀ a ∈ calls, IsQuiet a.call) : Reported uid calls := by
  induction calls with
  | nil => exact .nil
  | cons a calls ih =>
    obtain ⟨ha, hcalls⟩ := List.forall_mem_cons.1 h
    rcases a with ⟨call, answer⟩
    cases call with
    | getConversation | createProvider | stream | deliver => exact .quiet rfl rfl (ih hcalls)
    | _ => exact ha.elim

/-- The reports are those of the calls that have failed, one for each. -/
theorem reports (h : Reported uid calls) :
    Service.reports calls = calls.filterMap (fault? uid) := by
  induction h with
  | nil => rfl
  | @quiet a calls hfault hreport _ ih =>
    rw [Service.reports] at ih ⊢
    rw [List.filterMap_cons_none hreport, List.filterMap_cons_none hfault, ih]
  | @fault a d calls hfault _ ih =>
    have hreport : a.report? = none := by
      rcases a with ⟨_ | _, _⟩ <;> first | rfl | cases hfault
    have hreported : (reported d).report? = some d := rfl
    have hnone : fault? uid (reported d) = none := rfl
    rw [Service.reports] at ih ⊢
    rw [List.filterMap_cons_none hreport, List.filterMap_cons_some hreported,
      List.filterMap_cons_some hfault, List.filterMap_cons_none hnone, ih]

/-- A trial reports each of its steps that fail. -/
theorem trial (c : Conversation) (t : Trial) : Reported c.uid (t.transcript c) := by
  have hattempt : ∀ a : Attempt, Reported c.uid (a.transcript c) := fun a => by
    rcases a with ⟨role, content, e | m⟩
    · exact .fault rfl .nil
    · exact .quiet rfl rfl .nil
  have hattempts : Reported c.uid (t.attempts.flatMap (·.transcript c)) := by
    induction t.attempts with
    | nil => exact .nil
    | cons a attempts ih => exact (hattempt a).append ih
  refine hattempts.append ?_
  rcases t with ⟨attempts, e | c'⟩
  · exact .fault rfl .nil
  · exact .quiet rfl rfl .nil

end Reported

/-! ## Sending -/

/-- The calls of a caller that takes some events, or stops listening at one of them. -/
theorem sendAll_makes {events : List Event} {calls : List Answered}
    {result : Except ChatError Unit} (h : (sendAll events).Makes calls result) :
    (calls = heard events ∧ result = .ok ()) ∨
      ∃ front e back, events = front ++ e :: back ∧
        calls = heard front ++ [⟨.deliver e, false⟩] ∧ result = .error notHeard := by
  induction events generalizing calls with
  | nil => exact .inl h
  | cons e events ih =>
    have hsend : ∀ {calls result}, (send e).Makes calls result →
        ∃ listens : Bool, calls = [⟨.deliver e, listens⟩] ∧
          result = if listens then .ok () else .error notHeard := by
      rintro calls result ⟨listens, _, rfl, rfl, rfl⟩
      exact ⟨listens, rfl, rfl⟩
    rw [sendAll, Program.makes_andThen] at h
    obtain ⟨_, hfirst, rfl⟩ | ⟨first, rest, ⟨⟩, rfl, hfirst, hrest⟩ := h
    · obtain ⟨_ | _, rfl, ⟨⟩⟩ := hsend hfirst
      exact .inr ⟨[], e, events, rfl, rfl, rfl⟩
    · obtain ⟨_ | _, rfl, ⟨⟩⟩ := hsend hfirst
      obtain ⟨rfl, rfl⟩ | ⟨front, e', back, rfl, rfl, rfl⟩ := ih hrest
      · exact .inl ⟨rfl, rfl⟩
      · exact .inr ⟨e :: front, e', back, rfl, rfl, rfl⟩

namespace Opened

variable {g : Opened} {c : Conversation} {calls : List Answered}

/-! ## Keeping an exchange -/

theorem keepMessage_makes (role : Role) {content : String}
    (h : (keepMessage c role role.name content).Makes calls ()) :
    ∃ a : Attempt, a.turn = (role, content) ∧ calls = a.transcript c := by
  obtain ⟨answer, rest, rfl, hrest⟩ := h
  refine ⟨⟨role, content, answer⟩, rfl, congrArg (_ :: ·) ?_⟩
  cases answer with
  | error e =>
    obtain ⟨_, _, rfl, rfl, -⟩ := hrest
    rfl
  | ok m => exact hrest.1

/-- The messages of the user are tried one by one, by induction on the messages. -/
theorem keepInputs_makes {inputs : List Message} (h : (keepInputs c inputs).Makes calls ()) :
    ∃ attempts : List Attempt, attempts.map Attempt.turn = userTurns inputs ∧
      calls = attempts.flatMap (·.transcript c) := by
  induction inputs generalizing calls with
  | nil => exact ⟨[], rfl, h.1⟩
  | cons m inputs ih =>
    rw [keepInputs_cons, Program.makes_bind] at h
    obtain ⟨first, rest, ⟨⟩, rfl, hfirst, hrest⟩ := h
    obtain ⟨attempts, hturns, rfl⟩ := ih hrest
    rw [userTurns_cons]
    split at hfirst
    · rename_i hrole
      obtain ⟨a, hturn, rfl⟩ := keepMessage_makes .user hfirst
      exact ⟨a :: attempts, by rw [List.map_cons, hturn, hturns, if_pos hrole]; rfl, rfl⟩
    · rename_i hrole
      obtain ⟨rfl, -⟩ := hfirst
      exact ⟨attempts, by rw [hturns, if_neg hrole]; rfl, rfl⟩

/-- Keeping an exchange is a trial of it. -/
theorem keepExchange_makes {content : String} (h : (g.keepExchange c content).Makes calls ()) :
    ∃ t : Trial, t.attempts.map Attempt.turn = exchange g.inputs content ∧
      calls = t.transcript c := by
  rw [keepExchange_eq, Program.makes_bind] at h
  obtain ⟨first, rest, ⟨⟩, rfl, hinputs, hrest⟩ := h
  obtain ⟨attempts, hturns, rfl⟩ := keepInputs_makes hinputs
  rw [Program.makes_bind] at hrest
  obtain ⟨second, rest, ⟨⟩, rfl, hanswer, htouch⟩ := hrest
  obtain ⟨a, hturn, rfl⟩ := keepMessage_makes .assistant hanswer
  obtain ⟨touched, rest, rfl, hreport⟩ := htouch
  refine ⟨⟨attempts ++ [a], touched⟩, ?_, ?_⟩
  · rw [List.map_append, hturns, List.map_singleton, hturn, exchange]
  · have hreported : rest =
        (Trial.touchFault? c ⟨attempts ++ [a], touched⟩).toList.map reported := by
      cases touched with
      | error e =>
        obtain ⟨_, _, rfl, rfl, -⟩ := hreport
        rfl
      | ok c' => exact hreport.1
    rw [Trial.transcript, List.flatMap_append, List.flatMap_singleton, List.append_assoc, hreported]
    rfl

end Opened

/-! ## The course of a generation -/

/-- None of these calls changes the store or reports anything. -/
def AllQuiet (calls : List Answered) : Prop := ∀ a ∈ calls, IsQuiet a.call

theorem allQuiet_append {calls calls' : List Answered} :
    AllQuiet (calls ++ calls') ↔ AllQuiet calls ∧ AllQuiet calls' :=
  List.forall_mem_append

theorem allQuiet_heard (events : List Event) : AllQuiet (heard events) := by
  intro a ha
  obtain ⟨e, -, rfl⟩ := List.mem_map.1 ha
  trivial

/-- A caller that hears some events hears that the answer is complete if that is one of them. -/
theorem completes_heard (events : List Event) :
    (heard events).any completes = events.any fun e => e.kind == .outputComplete := by
  rw [heard, List.any_map]
  congr 1
  funext e
  cases e <;> rfl

/-- Sending some events is quiet. The caller hears no others. -/
theorem sendAll_quiet {events : List Event} {calls : List Answered}
    {result : Except ChatError Unit} (h : (sendAll events).Makes calls result) :
    AllQuiet calls := by
  obtain ⟨rfl, -⟩ | ⟨front, e, back, -, rfl, -⟩ := sendAll_makes h
  · exact allQuiet_heard _
  · exact allQuiet_append.2 ⟨allQuiet_heard _, List.forall_mem_singleton.2 trivial⟩

namespace Opened

variable {g : Opened} {c : Conversation} {calls : List Answered}

/-- The answer is not complete when a part of it is sent. -/
theorem kind_ne_of_mem_contents (fragments : List String) :
    ∀ x ∈ Event.modelReady none :: contents fragments, x.kind ≠ .outputComplete := by
  refine List.forall_mem_cons.2 ⟨nofun, fun x hx => ?_⟩
  obtain ⟨text, -, rfl⟩ := List.mem_map.1 hx
  exact nofun

/-- That the answer is complete comes last of what is sent of it. -/
theorem kind_ne_of_passed {front back : List Event} {e : Event}
    (h : g.passed = front ++ e :: back) : ∀ x ∈ front, x.kind ≠ .outputComplete := by
  have hfirst := kind_ne_of_mem_contents (fragments g.scanned.2)
  rw [passed] at h
  obtain ⟨mid, hmid, -⟩ | ⟨mid, rfl, hlast⟩ := List.append_eq_append_iff.1 h.symm
  · exact fun x hx => hfirst x (hmid ▸ List.mem_append_left _ hx)
  · have hnil : mid = [] := by
      split at hlast <;> rcases mid with _ | ⟨_, _ | _⟩ <;> simp at hlast ⊢
    rw [hnil, List.append_nil]
    exact hfirst

/-- A caller that hears all that is sent of an answer hears that it is complete, unless it breaks
off. -/
theorem completes_passed (g : Opened) :
    (heard g.passed).any completes = (failure? g.items).isNone := by
  have hfirst : (Event.modelReady none :: contents (fragments g.scanned.2)).any
      (fun e => e.kind == .outputComplete) = false :=
    List.any_eq_false.2 fun x hx => by simpa using kind_ne_of_mem_contents _ x hx
  rw [completes_heard, passed, List.any_append, hfirst, Bool.false_or]
  cases failure? g.items <;> rfl

/-- The calls of a generation that passes the answer on: its caller stops listening before it hears
that the answer is complete, or the answer breaks off, or all of it is heard. -/
theorem pass_makes {result : Except ChatError Scanner} (h : g.pass.Makes calls result) :
    AllQuiet calls ∧
      ((∃ e, result = .error e) ∧ calls.any completes = false ∨
        failure? g.items = none ∧ result = g.outcome ∧ calls.any completes = true) := by
  rw [pass_eq, Program.makes_andThen] at h
  obtain ⟨e, hsend, rfl⟩ | ⟨first, rest, ⟨⟩, rfl, hsend, rfl, rfl⟩ := h
  · refine ⟨sendAll_quiet hsend, .inl ⟨⟨e, rfl⟩, ?_⟩⟩
    obtain ⟨-, ⟨⟩⟩ | ⟨front, x, back, hpassed, rfl, -⟩ := sendAll_makes hsend
    have hnot : front.any (fun e => e.kind == .outputComplete) = false :=
      List.any_eq_false.2 fun y hy => by simpa using kind_ne_of_passed hpassed y hy
    rw [List.any_append, completes_heard, hnot]
    cases x <;> rfl
  · rw [List.append_nil]
    refine ⟨sendAll_quiet hsend, ?_⟩
    obtain ⟨rfl, -⟩ | ⟨_, _, _, -, -, ⟨⟩⟩ := sendAll_makes hsend
    rw [completes_passed]
    cases hfailure : failure? g.items with
    | none => exact .inr ⟨rfl, rfl, rfl⟩
    | some e => exact .inl ⟨⟨streamError e, by rw [outcome, hfailure]⟩, rfl⟩

theorem announceAll_quiet {rest : List Event × Option TitleJob}
    {result : Except ChatError Unit × Option TitleJob} (h : (announceAll rest).Makes calls result) :
    AllQuiet calls := by
  rw [announceAll, Program.makes_bind] at h
  obtain ⟨first, last, _, rfl, hsend, rfl, -⟩ := h
  rw [List.append_nil]
  exact sendAll_quiet hsend

/-- What a generation keeps of an answer, and the calls around it. -/
structure Keeps (g : Opened) (c : Conversation) (answer : String) (calls : List Answered)
    (t : Trial) : Prop where
  split : ∃ front back, calls = front ++ t.transcript c ++ back ∧ AllQuiet front ∧ AllQuiet back
  turns : t.attempts.map Attempt.turn = exchange g.inputs (Decomposition.ofAnswer answer).stored

/-- The calls of a generation that goes on with a conversation. The exchange is kept exactly when
the caller has heard that the answer is complete, and there is an answer. -/
theorem run_makes {result : Except ChatError Unit × Option TitleJob}
    (h : g.run.Makes calls result) (hexisting : g.existing = some c) :
    let answer := String.join (texts g.items)
    (AllQuiet calls ∧ (calls.any completes = false ∨ answer = "")) ∨
      (calls.any completes = true ∧ answer ≠ "") ∧ ∃ t, g.Keeps c answer calls t := by
  intro answer
  rw [run_eq, Program.makes_bind] at h
  obtain ⟨first, rest, r, rfl, hpass, hrest⟩ := h
  obtain ⟨hquiet, ⟨⟨e, rfl⟩, hheard⟩ | ⟨hfailure, hr, hheard⟩⟩ := pass_makes hpass
  · obtain ⟨rfl, -⟩ := hrest
    rw [List.append_nil]
    exact .inl ⟨hquiet, .inl hheard⟩
  · rw [outcome_of_failure?_eq_none hfailure] at hr
    subst hr
    have hraw := Scanner.readAll_raw (texts g.items)
    have hstored := Scanner.readAll_stored (texts g.items)
    dsimp only at hrest
    generalize (Scanner.readAll (texts g.items)).1 = scanner at *
    rw [close] at hrest
    by_cases hempty : scanner.raw = []
    · rw [if_pos hempty, pure_bind] at hrest
      refine .inl ⟨allQuiet_append.2 ⟨hquiet, announceAll_quiet hrest⟩, .inr ?_⟩
      exact String.toList_eq_nil_iff.1 (hraw.symm.trans hempty)
    · rw [if_neg hempty, hexisting] at hrest
      simp only [bind_assoc, pure_bind] at hrest
      rw [Program.makes_bind] at hrest
      obtain ⟨kept, rest, ⟨⟩, rfl, hkeep, hrest⟩ := hrest
      obtain ⟨t, hturns, rfl⟩ := keepExchange_makes hkeep
      have hanswer : answer ≠ "" := fun heq =>
        hempty (hraw.trans (String.toList_eq_nil_iff.2 heq))
      rw [hstored] at hturns
      refine .inr ⟨⟨?_, hanswer⟩, t, ⟨⟨first, rest, ?_, hquiet, announceAll_quiet hrest⟩, hturns⟩⟩
      · rw [List.any_append, hheard, Bool.true_or]
      · rw [List.append_assoc]

end Opened

/-! ## Whole generations -/

/-- The calls that open a generation, which goes on with a conversation that was found. -/
structure Opening (uid : String) (inputs : List Message) (calls : List Answered) (c : Conversation)
    (g : Opened) : Prop where
  quiet : AllQuiet calls
  found : ∃ owner, ⟨.getConversation ((Filter.byUid uid).ownedBy owner), .ok (some c)⟩ ∈ calls
  existing : g.existing = some c
  inputs : g.inputs = inputs
  silent : calls.any completes = false
  answer : ∀ rest, answerOf (calls ++ rest) = String.join (texts g.items)

theorem IsOpeningCall.quiet {c : Service.Call} (h : IsOpeningCall c) : IsQuiet c := by
  cases c with
  | getConversation | createProvider | stream => trivial
  | _ => exact h.elim

theorem IsOpeningCall.not_completes {a : Answered} (h : IsOpeningCall a.call) :
    completes a = false := by
  rcases a with ⟨call, answer⟩
  cases call with
  | getConversation | createProvider | stream => rfl
  | _ => exact h.elim

theorem start_makes {settings : AiSettings} {caller : Option UserId} {messages : List Message}
    {uid : String} {calls : List Answered} {r : Except ChatError Opened}
    (h : (start settings caller { messages, uid := some uid }).Makes calls r) :
    AllQuiet calls ∧ calls.any completes = false ∧
      ∀ g, r = .ok g → ∃ c, Opening uid messages calls c g := by
  obtain ⟨hopening, -⟩ := (start_does settings caller { messages, uid := some uid }).makes h
  have hquiet : AllQuiet calls := fun a ha => (hopening a ha).quiet
  have hsilent : calls.any completes = false := List.any_eq_false.2 fun a ha => by
    rw [(hopening a ha).not_completes]
    exact Bool.false_ne_true
  refine ⟨hquiet, hsilent, ?_⟩
  rintro g rfl
  cases caller with
  | none => cases h.2
  | some owner =>
    rw [start_unfold] at h
    split at h
    · cases h.2
    · split at h
      · cases h.2
      · rename_i resolved _
        rw [Program.makes_andThen] at h
        obtain ⟨_, -, ⟨⟩⟩ | ⟨first, rest, existing, rfl, hfind, hopen⟩ := h
        obtain ⟨found, _, rfl, hfound⟩ := hfind
        rcases found with e | _ | c
        · cases hfound.2
        · cases hfound.2
        · obtain ⟨rfl, ⟨⟩⟩ := hfound
          obtain ⟨created, _, rfl, hopen⟩ := hopen
          rcases created with e | ⟨⟩
          · cases hopen.2
          · obtain ⟨items, _, rfl, rfl, hitems⟩ := hopen
            cases hrest : openingOf items with
            | error e =>
              rw [hrest] at hitems
              cases hitems
            | ok left =>
              rw [hrest] at hitems
              cases hitems
              refine ⟨c, hquiet, ⟨owner, List.mem_cons_self⟩, rfl, rfl, hsilent, fun _ => ?_⟩
              exact congrArg String.join (texts_openingOf hrest).symm

/-- The calls of a generation that keeps nothing. -/
structure Idle (inputs : List Message) (calls : List Answered) : Prop where
  quiet : AllQuiet calls
  nothing : kept inputs calls = []

/-- The calls of a generation that keeps an exchange: between quiet calls there is one trial of it,
in the conversation that was found. -/
structure Kept (uid : String) (inputs : List Message) (calls : List Answered) (c : Conversation)
    (t : Trial) : Prop where
  split : ∃ front back, calls = front ++ t.transcript c ++ back ∧ AllQuiet front ∧ AllQuiet back
  found : ∃ owner, ⟨.getConversation ((Filter.byUid uid).ownedBy owner), .ok (some c)⟩ ∈ calls
  turns : t.attempts.map Attempt.turn = kept inputs calls

/-- The calls of a generation that goes on with a conversation, whatever they are answered. -/
theorem generate_makes {settings : AiSettings} {caller : Option UserId} {messages : List Message}
    {uid : String} {calls : List Answered} {result : Except ChatError Unit × Option TitleJob}
    (h : (generate settings caller { messages, uid := some uid }).Makes calls result) :
    Idle messages calls ∨ ∃ c t, Kept uid messages calls c t := by
  rw [generate, Program.makes_bind] at h
  obtain ⟨first, rest, r, rfl, hstart, hrest⟩ := h
  obtain ⟨hquiet, hsilent, hopens⟩ := start_makes hstart
  cases r with
  | error e =>
    obtain ⟨rfl, -⟩ := hrest
    rw [List.append_nil]
    refine .inl ⟨hquiet, if_neg fun h => ?_⟩
    rw [hsilent] at h
    exact Bool.false_ne_true h.1
  | ok g =>
    obtain ⟨c, hopening⟩ := hopens g rfl
    have hcompletes : (first ++ rest).any completes = rest.any completes := by
      rw [List.any_append, hsilent, Bool.false_or]
    obtain ⟨hrun, hnothing⟩ | ⟨⟨hheard, hanswer⟩, t, ⟨front, back, rfl, hfront, hback⟩, hturns⟩ :=
      Opened.run_makes hrest hopening.existing
    · refine .inl ⟨allQuiet_append.2 ⟨hquiet, hrun⟩, if_neg ?_⟩
      rintro ⟨hheard, hanswer⟩
      rw [hcompletes] at hheard
      rw [hopening.answer] at hanswer
      exact hnothing.elim (fun hnot => Bool.false_ne_true (hnot.symm.trans hheard)) hanswer
    · obtain ⟨owner, hfound⟩ := hopening.found
      refine .inr ⟨c, t, ⟨first ++ front, back, ?_, allQuiet_append.2 ⟨hquiet, hfront⟩, hback⟩,
        ⟨owner, List.mem_append_left _ hfound⟩, ?_⟩
      · simp only [List.append_assoc]
      · rw [kept, hcompletes, hopening.answer, if_pos ⟨hheard, hanswer⟩, hturns, hopening.inputs]

end ChatRelay.Generation
