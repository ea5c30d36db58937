/-
This file asks whether every INVITE that rings is concluded: by the time the end of
an incoming call is told, its INVITE has had one final response, after nothing but
180s, and since then only copies of it. Answering, rejecting, hanging up and being
cancelled all see to it. A BYE for a call that still rings does not: the call ends
and its INVITE stays open. And since the agent knows an INVITE again only by the
call it has, a copy that arrives too late is answered anew.
-/

import KetPhone.UserAgent.Protocol
import KetPhone.UserAgent.Ringing

namespace KetPhone.Core

open Sip List UserAgent

variable {Host : Type}

/-! ### The answers to an INVITE -/

/-- What tells a request from others: its method, and what an answer copies from it. -/
structure Identity where
  method : Bytes
  via : List Bytes
  sender : Option Bytes
  recipient : Option Bytes
  callId : Option Bytes
  cseq : Option Bytes
  deriving DecidableEq

def identity (request : Message) : Identity :=
  { method := request.method
    via := request.headerAll "via"
    sender := request.header "from"
    recipient := request.header "to"
    callId := request.header "call-id"
    cseq := request.header "cseq" }

section Identities

variable {request other : Message} (same : identity request = identity other)

include same

theorem method_of_identity : request.method = other.method := congrArg Identity.method same

theorem callId_of_identity : request.headerOr "call-id" = other.headerOr "call-id" :=
  congrArg (fun found => found.callId.getD []) same

theorem wellAddressed_of_identity :
    wellAddressed request = wellAddressed other := by
  have first (message : Message) : message.header "via" = (message.headerAll "via").head? := by
    unfold Message.header Message.headerAll Headers.value
    rw [List.head?_map, List.head?_filter]
  have via : request.header "via" = other.header "via" := by
    rw [first, first]
    exact congrArg (fun found => found.via.head?) same
  have sender : request.header "from" = other.header "from" := congrArg Identity.sender same
  have recipient : request.header "to" = other.header "to" := congrArg Identity.recipient same
  have callId : request.header "call-id" = other.header "call-id" := congrArg Identity.callId same
  have cseq : request.headerOr "cseq" = other.headerOr "cseq" :=
    congrArg (fun found => found.cseq.getD []) same
  unfold wellAddressed
  rw [via, sender, recipient, callId, cseq]

end Identities

/-- A response to a request, or to a copy of it. -/
def Action.answersTo (request : Identity) : Action → Option Response
  | .sendSip (.response response) =>
    if identity response.request = request then some response else none
  | _ => none

/-- The responses to a request and its copies, in order. -/
def answers (request : Identity) (history : List Action) : List Response :=
  history.filterMap (Action.answersTo request)

def Response.Final (response : Response) : Prop :=
  response.status = 200 ∨ 400 ≤ response.status ∧ response.status ≤ 699

/-- One response is final: before it stand only 180s, and after it only copies of it. A copy is the
same response, and the bytes of a response depend on nothing else (`Packet.text`). -/
def ConcludedBy (final : Response) (responses : List Response) : Prop :=
  ∃ rung copies, responses = rung ++ final :: copies ∧ (∀ response ∈ rung, response.status = 180) ∧
    ∀ response ∈ copies, response = final

def Concluded (responses : List Response) : Prop :=
  ∃ final : Response, final.Final ∧ ConcludedBy final responses

/-! ### The INVITE of a call -/

/-- The request answered last, and the INVITE of the call that began last. -/
structure Rung where
  latest : Option Message
  invite : Option Message

/-- An incoming call begins right after its INVITE was answered with 180. -/
def Rung.next (rung : Rung) : Action → Rung
  | .sendSip (.response response) => { rung with latest := some response.request }
  | .begin outgoing _ _ => { rung with invite := if outgoing then none else rung.latest }
  | _ => rung

/-- The INVITE of the call that began last, if that is an incoming one. -/
def inviteOf (history : List Action) : Option Message :=
  (history.foldl Rung.next { latest := none, invite := none }).invite

/-- The INVITE of every incoming call whose end was told had been concluded by then. -/
def UserAgent.RingingConcluded (agent : UserAgent Host) : Prop :=
  Each (fun past action => action.ended ≠ none → ∀ invite, inviteOf past = some invite →
    Concluded (answers (identity invite) past)) agent.log

/-- No BYE arrives for an incoming call that still rings, no copy of the INVITE of an incoming call
arrives once the call is confirmed, and no INVITE that has been answered makes an idle agent ring.
-/
def Polite (agent : UserAgent Host) : Op → Prop
  | .message datagram _ => ∀ request, parseMessage datagram = some request →
      request.isResponse = false → UserAgent.wellAddressed request = true →
        (request.method = ascii "BYE" → ∀ call, agent.sameCall request = some call →
          call.outgoing = false → call.state ≠ .ringing) ∧
        (request.method = ascii "INVITE" → ∀ call invite, agent.current = some call →
          call.outgoing = false → call.state = .confirmed → call.invite = some invite →
            identity request ≠ identity invite) ∧
        (agent.Welcomes datagram request → answers (identity request) agent.log = [])
  | _ => True

/-! ### What more actions change -/

theorem answers_append (request : Identity) (past added : List Action) :
    answers request (past ++ added) = answers request past ++ answers request added :=
  filterMap_append

theorem inviteOf_append {past added : List Action} (quiet : begun added = []) :
    inviteOf (past ++ added) = inviteOf past := by
  unfold inviteOf
  rw [foldl_append]
  generalize past.foldl Rung.next _ = rung
  induction added generalizing rung with
  | nil => rfl
  | cons action added hypothesis =>
    obtain ⟨first, rest⟩ := forall_mem_cons.mp (filterMap_eq_nil_iff.mp quiet)
    rw [foldl_cons, hypothesis (filterMap_eq_nil_iff.mpr rest)]
    match action with
    | .sendSip (.request _ _) => rfl
    | .sendSip (.response _) => rfl
    | .sendSip (.ackForFailure _ _) => rfl
    | .openMedia _ => rfl
    | .startMedia _ _ => rfl
    | .closeMedia => rfl
    | .emit _ => rfl
    | .begin _ _ _ => exact nomatch quiet

namespace UserAgent.RingingConcluded

variable {before after : UserAgent Host} {added : List Action}

theorem append (concluded : before.RingingConcluded) (log : after.log = before.log ++ added)
    (silent : added.filterMap Action.ended = []) : after.RingingConcluded := by
  unfold RingingConcluded
  rw [log]
  exact Each.append concluded (Each.of_forall fun action member past ended =>
    absurd (filterMap_eq_nil_iff.mp silent action member) ended)

/-- A call ends whose INVITE, if it had one, is concluded by then. -/
theorem ends (concluded : before.RingingConcluded) {sent : List Action} {call : Call}
    {reason : EndReason} {status : Int}
    (log : after.log = before.log ++ (sent ++ call.farewell reason status))
    (silent : sent.filterMap Action.ended = [])
    (done : ∀ invite, inviteOf (before.log ++ sent) = some invite →
      Concluded (answers (identity invite) (before.log ++ sent))) : after.RingingConcluded := by
  have closing (media : List Action) (quiet : media = [] ∨ media = [.closeMedia]) (event : Event)
      (equal : after.log = before.log ++ (sent ++ (media ++ [.emit event]))) :
      after.RingingConcluded := by
    unfold RingingConcluded
    rw [equal, ← append_assoc sent, ← append_assoc]
    refine Each.concat (Each.append concluded (Each.of_forall fun action member past ended => ?_))
      fun _ invite latest => ?_
    · rcases mem_append.mp member with old | new
      · exact absurd (filterMap_eq_nil_iff.mp silent action old) ended
      · rcases quiet with rfl | rfl
        · exact nomatch new
        · cases mem_singleton.mp new
          exact absurd rfl ended
    · rw [← append_assoc] at latest ⊢
      have same : begun media = [] ∧ answers (identity invite) media = [] := by
        rcases quiet with rfl | rfl <;> exact ⟨rfl, rfl⟩
      rw [inviteOf_append same.1] at latest
      rw [answers_append, same.2, append_nil]
      exact done invite latest
  unfold Call.farewell at log
  split at log
  · exact closing [.closeMedia] (Or.inr rfl) _ log
  · exact closing [] (Or.inl rfl) _ log

end UserAgent.RingingConcluded

/-! ### The agent's answers -/

/-- The responses to the INVITE of an incoming call, as the state of the call has them. -/
def Stands (call : Call) (responses : List Response) : Prop :=
  match call.state with
  | .calling => False
  | .ringing => (∀ response ∈ responses, response.status = 180) ∧
      ∀ response, call.lastResponse = some response → response.status = 180
  | .answering => ∃ final, call.lastResponse = some final ∧ final.status = 200 ∧
      ConcludedBy final responses
  | .confirmed => ∃ final : Response, final.status = 200 ∧ ConcludedBy final responses

/-- An INVITE that the agent could ring for. -/
structure Invites (invite : Message) (call : Call) : Prop where
  method : invite.method = ascii "INVITE"
  addressed : UserAgent.wellAddressed invite = true
  callId : call.sipCallId = invite.headerOr "call-id"

/-- What the log has of a call. -/
structure Call.Attended (call : Call) (history : List Action) : Prop where
  outgoing : call.outgoing = true → inviteOf history = none
  incoming : call.outgoing = false → ∃ invite, call.invite = some invite ∧
    inviteOf history = some invite ∧ Invites invite call ∧
      Stands call (answers (identity invite) history)

/-- The agent has answered as it should. -/
structure UserAgent.Attends (agent : UserAgent Host) : Prop where
  concluded : agent.RingingConcluded
  attended : ∀ call, agent.current = some call → call.Attended agent.log

theorem ConcludedBy.copy {final : Response} {responses more : List Response}
    (concluded : ConcludedBy final responses) (copies : ∀ response ∈ more, response = final) :
    ConcludedBy final (responses ++ more) := by
  obtain ⟨rung, old, rfl, ringing, same⟩ := concluded
  refine ⟨rung, old ++ more, by simp, ringing, fun response member => ?_⟩
  exact (mem_append.mp member).elim (same response) (copies response)

theorem ConcludedBy.of_ringing {final : Response} {responses : List Response}
    (ringing : ∀ response ∈ responses, response.status = 180) :
    ConcludedBy final (responses ++ [final]) :=
  ⟨responses, [], rfl, ringing, nofun⟩

namespace Stands

variable {call next : Call} {responses more : List Response}

theorem repeats (stands : Stands call responses) (state : next.state = call.state)
    (last : next.lastResponse = call.lastResponse)
    (copies : ∀ response ∈ more, call.state ≠ .confirmed ∧ call.lastResponse = some response) :
    Stands next (responses ++ more) := by
  unfold Stands at stands ⊢
  rw [state, last]
  cases now : call.state with
  | calling =>
    rw [now] at stands
    exact stands
  | ringing =>
    rw [now] at stands
    refine ⟨fun response member => ?_, stands.2⟩
    exact (mem_append.mp member).elim (stands.1 response) fun new =>
      stands.2 response (copies response new).2
  | answering =>
    rw [now] at stands
    obtain ⟨final, kept, status, concluded⟩ := stands
    refine ⟨final, kept, status, concluded.copy fun response member => ?_⟩
    exact Option.some.inj ((copies response member).2.symm.trans kept)
  | confirmed =>
    rw [now] at stands
    obtain ⟨final, status, concluded⟩ := stands
    refine ⟨final, status, concluded.copy fun response member => ?_⟩
    exact absurd now (copies response member).1

theorem concluded (stands : Stands call responses) (settled : call.state ≠ .ringing) :
    Concluded responses := by
  unfold Stands at stands
  cases now : call.state with
  | calling =>
    rw [now] at stands
    exact stands.elim
  | ringing => exact absurd now settled
  | answering =>
    rw [now] at stands
    obtain ⟨final, -, status, concluded⟩ := stands
    exact ⟨final, Or.inl status, concluded⟩
  | confirmed =>
    rw [now] at stands
    obtain ⟨final, status, concluded⟩ := stands
    exact ⟨final, Or.inl status, concluded⟩

theorem ringing (stands : Stands call responses) (state : call.state = .ringing) :
    (∀ response ∈ responses, response.status = 180) ∧
      ∀ response, call.lastResponse = some response → response.status = 180 := by
  unfold Stands at stands
  rw [state] at stands
  exact stands

end Stands

/-! ### Steps -/

/-- What the answers to the INVITE of a call depend on. -/
structure Call.Alike (call other : Call) : Prop where
  outgoing : call.outgoing = other.outgoing
  invite : call.invite = other.invite
  sipCallId : call.sipCallId = other.sipCallId
  state : call.state = other.state
  lastResponse : call.lastResponse = other.lastResponse

theorem Call.Alike.refl (call : Call) : call.Alike call := ⟨rfl, rfl, rfl, rfl, rfl⟩

/-- The last response of a call that is not confirmed is all that its INVITE is sent again. -/
def UserAgent.OnlyRepeats (agent : UserAgent Host) (added : List Action) : Prop :=
  ∀ call invite, agent.current = some call → call.outgoing = false → call.invite = some invite →
    Invites invite call → ∀ response ∈ answers (identity invite) added,
      call.state ≠ .confirmed ∧ call.lastResponse = some response

theorem UserAgent.OnlyRepeats.of_none {agent : UserAgent Host} {added : List Action}
    (unanswered : ∀ request, answers request added = []) : agent.OnlyRepeats added := by
  intro call invite _ _ _ _ response member
  rw [unanswered] at member
  exact nomatch member

namespace UserAgent.Attends

variable [UserAgentHost Host] {before after : UserAgent Host}
  {pending : OrderedMap Transaction.key} {added sent : List Action}

omit [UserAgentHost Host] in
/-- The call goes on, and its INVITE gets at most copies of its last response. -/
theorem goesOn (attends : before.Attends) (log : after.log = before.log ++ added)
    (quiet : begun added = []) (silent : added.filterMap Action.ended = [])
    (repeats : before.OnlyRepeats added)
    (calls : ∀ next, after.current = some next →
      ∃ call, before.current = some call ∧ next.Alike call) : after.Attends := by
  refine ⟨attends.concluded.append log silent, fun next here => ?_⟩
  obtain ⟨call, present, alike⟩ := calls next here
  have attended := attends.attended call present
  rw [log]
  refine ⟨fun outgoing => ?_, fun incoming => ?_⟩
  · rw [inviteOf_append quiet]
    exact attended.outgoing (alike.outgoing ▸ outgoing)
  · rw [alike.outgoing] at incoming
    obtain ⟨invite, kept, latest, invites, stands⟩ := attended.incoming incoming
    refine ⟨invite, alike.invite.trans kept, ?_, ⟨invites.method, invites.addressed, ?_⟩, ?_⟩
    · rw [inviteOf_append quiet]
      exact latest
    · exact alike.sipCallId.trans invites.callId
    · rw [answers_append]
      exact stands.repeats alike.state alike.lastResponse
        (repeats call invite present incoming kept invites)

theorem rests (attends : before.Attends)
    (does : Does before after before.current pending added) (quiet : begun added = [])
    (silent : added.filterMap Action.ended = []) (repeats : before.OnlyRepeats added) :
    after.Attends :=
  attends.goesOn does.log quiet silent repeats fun next here =>
    ⟨next, does.current ▸ here, .refl next⟩

theorem keeps (attends : before.Attends) {call next : Call}
    (does : Does before after (some next) pending added) (present : before.current = some call)
    (alike : next.Alike call) (quiet : begun added = [])
    (silent : added.filterMap Action.ended = []) (repeats : before.OnlyRepeats added) :
    after.Attends := by
  refine attends.goesOn does.log quiet silent repeats fun other here => ?_
  cases does.current.symm.trans here
  exact ⟨call, present, alike⟩

/-- A call of the agent ends. -/
theorem ends (attends : before.Attends) {call gone : Call} {reason : EndReason} {status : Int}
    (does : Does before after none pending (sent ++ gone.farewell reason status))
    (present : before.current = some call) (quiet : begun sent = [])
    (silent : sent.filterMap Action.ended = [])
    (done : ∀ invite, call.outgoing = false → call.invite = some invite → Invites invite call →
      Stands call (answers (identity invite) before.log) →
        Concluded (answers (identity invite) (before.log ++ sent))) : after.Attends := by
  refine ⟨attends.concluded.ends does.log silent fun invite latest => ?_, fun next here => ?_⟩
  · rw [inviteOf_append quiet] at latest
    have attended := attends.attended call present
    cases outgoing : call.outgoing with
    | true => exact nomatch (attended.outgoing outgoing).symm.trans latest
    | false =>
      obtain ⟨same, kept, here, invites, stands⟩ := attended.incoming outgoing
      cases here.symm.trans latest
      exact done invite outgoing kept invites stands
  · exact nomatch does.current.symm.trans here

theorem endsSettled (attends : before.Attends) {call gone : Call} {reason : EndReason}
    {status : Int} (does : Does before after none pending (sent ++ gone.farewell reason status))
    (present : before.current = some call) (quiet : begun sent = [])
    (silent : sent.filterMap Action.ended = [])
    (unanswered : call.outgoing = false → ∀ invite, Invites invite call →
      answers (identity invite) sent = [])
    (settled : call.outgoing = false → call.state ≠ .ringing) : after.Attends := by
  refine attends.ends does present quiet silent fun invite incoming _ invites stands => ?_
  rw [answers_append, unanswered incoming invite invites, append_nil]
  exact stands.concluded (settled incoming)

theorem endsRinging (attends : before.Attends) {call gone : Call} {reason : EndReason}
    {status code : Int}
    (does : Does before after none pending (sent ++ gone.farewell reason status))
    (present : before.current = some call) (quiet : begun sent = [])
    (silent : sent.filterMap Action.ended = []) (ringing : call.state = .ringing)
    (final : 400 ≤ code ∧ code ≤ 699)
    (one : ∀ invite, call.invite = some invite → Invites invite call →
      answers (identity invite) sent = [inviteResponse call code]) : after.Attends := by
  refine attends.ends does present quiet silent fun invite incoming kept invites stands => ?_
  rw [answers_append, one invite kept invites]
  exact ⟨_, Or.inr final, .of_ringing (stands.ringing ringing).1⟩

theorem endsOutgoing (attends : before.Attends) {call gone : Call} {reason : EndReason}
    {status : Int} (does : Does before after none pending (sent ++ gone.farewell reason status))
    (present : before.current = some call) (outgoing : call.outgoing = true)
    (quiet : begun sent = []) (silent : sent.filterMap Action.ended = []) : after.Attends :=
  attends.ends does present quiet silent fun _ incoming =>
    nomatch outgoing.symm.trans incoming

theorem dialFails (attends : before.Attends) {port : UInt16} {id : Int32} {sipCallId : Bytes}
    {gone : Call} {reason : EndReason} {status : Int}
    (does : Does before after none pending
      ([.openMedia port, .begin true id sipCallId] ++ gone.farewell reason status)) :
    after.Attends := by
  refine ⟨attends.concluded.ends does.log rfl fun invite latest => ?_, fun next here => ?_⟩
  · unfold inviteOf at latest
    rw [foldl_append] at latest
    exact nomatch latest
  · exact nomatch does.current.symm.trans here

theorem of_outgoing (attends : before.Attends) {next : Call}
    (does : Does before after (some next) pending added) (outgoing : next.outgoing = true)
    (silent : added.filterMap Action.ended = [])
    (uninvited : inviteOf (before.log ++ added) = none) :
    after.Attends := by
  refine ⟨attends.concluded.append does.log silent, fun other here => ?_⟩
  cases does.current.symm.trans here
  rw [does.log]
  exact ⟨fun _ => uninvited, fun incoming => nomatch outgoing.symm.trans incoming⟩

/-- An incoming call gets on. -/
theorem getsOn (attends : before.Attends) {call next : Call}
    (does : Does before after (some next) pending added) (present : before.current = some call)
    (incoming : call.outgoing = false) (same : next.outgoing = call.outgoing)
    (invite : next.invite = call.invite) (sipCallId : next.sipCallId = call.sipCallId)
    (quiet : begun added = []) (silent : added.filterMap Action.ended = [])
    (stands : ∀ invite, call.invite = some invite →
      Stands call (answers (identity invite) before.log) →
        Stands next (answers (identity invite) (before.log ++ added))) : after.Attends := by
  refine ⟨attends.concluded.append does.log silent, fun other here => ?_⟩
  cases does.current.symm.trans here
  obtain ⟨found, kept, latest, invites, stood⟩ :=
    (attends.attended call present).incoming incoming
  rw [does.log]
  refine ⟨fun outgoing => (nomatch incoming.symm.trans (same.symm.trans outgoing)), fun _ =>
    ⟨found, invite.trans kept, ?_, ⟨invites.method, invites.addressed, ?_⟩,
      stands found kept stood⟩⟩
  · rw [inviteOf_append quiet]
    exact latest
  · exact sipCallId.trans invites.callId

end UserAgent.Attends

theorem answers_own {response : Response} {request : Identity}
    (same : identity response.request = request) :
    answers request [.sendSip (.response response)] = [response] := by
  simp [answers, Action.answersTo, same]

theorem answers_other {response : Response} {request : Identity}
    (apart : identity response.request ≠ request) :
    answers request [.sendSip (.response response)] = [] := by
  simp [answers, Action.answersTo, apart]

theorem UserAgent.OnlyRepeats.of_last {agent : UserAgent Host} {call : Call} {response : Response}
    (present : agent.current = some call) (early : call.state ≠ .confirmed)
    (last : call.lastResponse = some response) :
    agent.OnlyRepeats [.sendSip (.response response)] := by
  intro own invite here _ _ _ found member
  cases present.symm.trans here
  refine ⟨early, ?_⟩
  by_cases same : identity response.request = identity invite
  · rw [answers_own same] at member
    cases mem_singleton.mp member
    exact last
  · rw [answers_other same] at member
    exact nomatch member

theorem Invites.apart {invite request : Message} {call : Call} (invites : Invites invite call)
    (other : request.method ≠ ascii "INVITE") : identity request ≠ identity invite :=
  fun same => other ((method_of_identity same).trans invites.method)

theorem Invites.own {invite : Message} {call : Call} (kept : call.invite = some invite)
    (status : Int) : identity (inviteResponse call status).request = identity invite := by
  unfold inviteResponse
  rw [kept]
  rfl

/-- The step meets the conditions on BYEs and INVITEs. -/
structure Courtesy (cause : Cause) (added : List Action) (before : UserAgent Host) :
    Prop where
  bye : ∀ request call, Asks cause request "BYE" → before.sameCall request = some call →
    call.outgoing = false → call.state ≠ .ringing
  copy : ∀ request call invite, Asks cause request "INVITE" → before.current = some call →
    call.outgoing = false → call.state = .confirmed → call.invite = some invite →
      identity request ≠ identity invite
  fresh : ∀ request action, cause = .hears request → action ∈ added → action.Rings →
    answers (identity request) before.log = []

section Steps

variable [UserAgentHost Host] {cause : Cause} {added : List Action}
  {before after : UserAgent Host}

omit [UserAgentHost Host] in
/-- A reply that changes nothing is none to the INVITE of the agent's call, or repeats the last
response to it. -/
theorem Reply.onlyRepeats {response : Response} (reply : Reply before cause response)
    (copy : ∀ request call invite, Asks cause request "INVITE" → before.current = some call →
      call.outgoing = false → call.state = .confirmed → call.invite = some invite →
        identity request ≠ identity invite) :
    before.OnlyRepeats [.sendSip (.response response)] := by
  intro call invite present incoming kept invites found member
  have unanswered (apart : identity response.request ≠ identity invite) :
      call.state ≠ .confirmed ∧ call.lastResponse = some found := by
    rw [answers_other apart] at member
    exact nomatch member
  cases reply with
  | other heard apart =>
    refine unanswered fun same => ?_
    rcases apart with method | unaddressed
    · exact method ((method_of_identity same).trans invites.method)
    · rw [wellAddressed_of_identity same, invites.addressed] at unaddressed
      exact nomatch unaddressed
  | refuses asks stranger =>
    refine unanswered fun same => ?_
    have found : before.sameCall response.request = some call := by
      refine Option.filter_eq_some_iff.mpr ⟨present, decide_eq_true ?_⟩
      rw [invites.callId, callId_of_identity same]
    exact nomatch stranger.symm.trans found
  | declines asks same settled =>
    refine unanswered (copy _ call invite asks present incoming ?_ kept)
    cases present.symm.trans (sameCall_eq_some same).1
    exact settled.resolve_left (Bool.eq_false_iff.mp incoming)
  | again here _ early last =>
    exact UserAgent.OnlyRepeats.of_last here early last call invite present incoming kept invites
      found member

theorem CallTurn.attends (turn : CallTurn cause added before after) (linked : before.Linked)
    (courtesy : Courtesy cause added before) (attends : before.Attends) : after.Attends := by
  cases turn with
  | rests does => exact attends.rests does rfl rfl (.of_none fun _ => rfl)
  | replies reply does => exact attends.rests does rfl rfl (reply.onlyRepeats courtesy.copy)
  | acknowledges _ _ does => exact attends.rests does rfl rfl (.of_none fun _ => rfl)
  | proceeds _ _ _ does => exact attends.rests does rfl rfl (.of_none fun _ => rfl)
  | progresses _ _ present _ _ _ told does =>
    rcases told with rfl | ⟨event, kind, _, rfl⟩
    · exact attends.keeps does present ⟨rfl, rfl, rfl, rfl, rfl⟩ rfl rfl (.of_none fun _ => rfl)
    · refine attends.keeps does present ⟨rfl, rfl, rfl, rfl, rfl⟩ rfl ?_ (.of_none fun _ => rfl)
      simp [Action.ended, kind]
  | cancelsLate _ _ present _ _ _ _ _ _ does =>
    exact attends.keeps does present ⟨rfl, rfl, rfl, rfl, rfl⟩ rfl rfl (.of_none fun _ => rfl)
  | concludes _ _ does => exact attends.rests does rfl rfl (.of_none fun _ => rfl)
  | forgets _ _ _ sent does =>
    rcases sent with rfl | ⟨_, rfl⟩ <;>
      exact attends.rests does rfl rfl (.of_none fun _ => rfl)
  | parts _ _ _ _ _ _ does => exact attends.rests does rfl rfl (.of_none fun _ => rfl)
  | fails pending invites own acknowledged does =>
    obtain ⟨present, -, outgoing, -⟩ := linked.of_callOf pending invites own
    rcases acknowledged with rfl | ⟨_, rfl⟩ <;>
      exact attends.endsOutgoing does present outgoing rfl rfl
  | retries _ _ own _ _ _ _ does =>
    exact attends.keeps does (callOf_eq_some own).1 ⟨rfl, rfl, rfl, rfl, rfl⟩ rfl rfl
      (.of_none fun _ => rfl)
  | connects heard _ invites own _ _ told does =>
    obtain ⟨present, -, outgoing, -⟩ := linked.of_callOf heard.pending invites own
    refine attends.of_outgoing does outgoing (by simp [Action.ended, told.1]) ?_
    rw [inviteOf_append rfl]
    exact (attends.attended _ present).outgoing outgoing
  | drops heard _ invites own _ refused _ does =>
    obtain ⟨present, -, outgoing, -⟩ := linked.of_callOf heard.pending invites own
    rw [append_cons] at does
    rcases refused with rfl | ⟨_, rfl⟩ <;>
      exact attends.endsOutgoing does present outgoing rfl rfl
  | dialFails _ _ _ does => exact attends.dialFails does
  | dials _ _ dialling _ _ does =>
    refine attends.of_outgoing does dialling.outgoing rfl ?_
    unfold inviteOf
    rw [foldl_append]
    rfl
  | @rings _ _ request id tag offer event asks idle told does =>
    refine ⟨attends.concluded.append does.log (by simp [Action.ended, told.1]), fun next here => ?_⟩
    cases does.current.symm.trans here
    rw [does.log]
    refine ⟨fun outgoing => absurd outgoing Bool.false_ne_true,
      fun _ => ⟨request, rfl, ?_, ⟨asks.method, asks.addressed, rfl⟩, ?_⟩⟩
    · unfold inviteOf
      rw [foldl_append]
      rfl
    · have fresh := courtesy.fresh request (.emit event) asks.message (by simp) told.1
      have answered : answers (identity request)
          [.sendSip (.response { request, status := 180, toTag := tag }),
            .begin false id (request.headerOr "call-id"), .emit event] =
          [{ request, status := 180, toTag := tag }] := by
        simp [answers, Action.answersTo]
      rw [answers_append, fresh, answered]
      refine ⟨fun response member => ?_, fun response last => ?_⟩
      · cases mem_singleton.mp member
        rfl
      · cases last
        rfl
  | reinvites asks same settled does =>
    have present := (sameCall_eq_some same).1
    refine attends.keeps does present ⟨rfl, rfl, rfl, rfl, rfl⟩ rfl rfl ?_
    intro own invite here incoming kept invites found member
    cases present.symm.trans here
    have confirmed := settled.resolve_left (Bool.eq_false_iff.mp incoming)
    have apart := courtesy.copy _ _ invite asks present incoming confirmed kept
    simp [answers, Action.answersTo, apart] at member
  | confirms present incoming answering told does =>
    refine attends.getsOn does present incoming rfl rfl rfl rfl (by simp [Action.ended, told.1])
      fun invite kept stands => ?_
    unfold Stands at stands
    rw [answering] at stands
    obtain ⟨final, -, status, concluded⟩ := stands
    rw [answers_append]
    exact ⟨final, status, concluded.copy fun _ member => absurd member not_mem_nil⟩
  | hearsBye asks same does =>
    have present := (sameCall_eq_some same).1
    rw [← singleton_append] at does
    refine attends.endsSettled does present rfl rfl (fun _ invite invites => ?_)
      (courtesy.bye _ _ asks same)
    refine answers_other (invites.apart ?_)
    rw [asks.method]
    decide
  | @hearsCancel _ _ request own _ _ asks same _ ringing does =>
    have present := (sameCall_eq_some same).1
    have refusal : (400 : Int) ≤ 487 ∧ (487 : Int) ≤ 699 := by decide
    rw [← singleton_append, append_cons] at does
    refine attends.endsRinging does present rfl rfl ringing refusal fun invite kept invites => ?_
    have apart : identity request ≠ identity invite := by
      refine invites.apart ?_
      rw [asks.method]
      decide
    have unanswered : answers (identity invite)
        [.sendSip (.response { request, status := 200, toTag := own.localTag })] = [] :=
      answers_other apart
    rw [answers_append, unanswered, answers_own (Invites.own kept 487)]
    rfl
  | rejects present ringing refusal does =>
    rw [← singleton_append] at does
    exact attends.endsRinging does present rfl rfl ringing refusal fun invite kept _ =>
      answers_own (Invites.own kept _)
  | answerFails present incoming ringing refused does =>
    rw [append_cons] at does
    rcases refused with rfl | ⟨-, _, rfl⟩ <;>
      exact attends.endsRinging does present rfl rfl ringing (by decide) fun invite kept _ =>
        answers_own (Invites.own kept _)
  | @accepts _ _ call port remote body _ _ _ _ present incoming ringing _ does =>
    refine attends.getsOn does present incoming rfl rfl rfl rfl rfl fun invite kept stands => ?_
    have accepted : answers (identity invite) [.openMedia port, .startMedia remote true,
        .sendSip (.response { inviteResponse call 200 with body })] =
        [{ inviteResponse call 200 with body }] :=
      answers_own (Invites.own kept 200)
    rw [answers_append, accepted]
    exact ⟨_, rfl, rfl, .of_ringing (stands.ringing ringing).1⟩
  | resends present answering sent does =>
    refine attends.keeps does present ⟨rfl, rfl, rfl, rfl, rfl⟩ ?_ ?_ ?_
    · rcases sent with rfl | ⟨_, -, rfl⟩ <;> rfl
    · rcases sent with rfl | ⟨_, -, rfl⟩ <;> rfl
    · rcases sent with rfl | ⟨response, last, rfl⟩
      · exact .of_none fun _ => rfl
      · exact .of_last present (answering ▸ by decide) last
  | givesUp present _ _ _ does =>
    exact attends.keeps does present ⟨rfl, rfl, rfl, rfl, rfl⟩ rfl rfl (.of_none fun _ => rfl)
  | cancels present _ _ _ _ _ does =>
    exact attends.keeps does present ⟨rfl, rfl, rfl, rfl, rfl⟩ rfl rfl (.of_none fun _ => rfl)
  | abandons present calling _ does =>
    have outgoing := (linked.shaped _ present).outgoing_of_calling calling
    rw [← nil_append (Call.farewell _ _ _)] at does
    exact attends.endsOutgoing does present outgoing rfl rfl
  | saysBye present settled _ does =>
    rw [← singleton_append] at does
    refine attends.endsSettled does present rfl rfl (fun _ _ _ => rfl) fun _ ringing => ?_
    rw [ringing] at settled
    simp at settled

theorem CallStep.attends (step : CallStep cause added before after) (linked : before.Linked)
    (courtesy : Courtesy cause added before) (attends : before.Attends) : after.Attends := by
  cases step with
  | registers side log =>
    refine attends.goesOn log (side.filterMap_eq_nil (fun action concerns => ?_) log)
      (side.filterMap_eq_nil Action.ended_of_concernsRegistration log)
      (.of_none fun request => side.filterMap_eq_nil (fun action concerns => ?_) log)
      fun next here => ⟨next, side.frame.current ▸ here, .refl next⟩
    · match action with
      | .sendSip _ => rfl
      | .emit _ => rfl
    · match action with
      | .sendSip (.request _ _) => rfl
      | .emit _ => rfl
  | calls turn => exact turn.attends linked courtesy attends

/-! ### Operations and runs -/

omit [UserAgentHost Host] in
theorem Courtesy.of_unheard (unheard : ∀ heard, cause ≠ .hears heard) (added : List Action)
    (before : UserAgent Host) : Courtesy cause added before where
  bye := fun _ _ asks => absurd asks.message (unheard _)
  copy := fun _ _ _ asks => absurd asks.message (unheard _)
  fresh := fun _ _ heard => absurd heard (unheard _)

theorem Courtesy.of_polite {agent : UserAgent Host} {datagram : Bytes} {now : Time}
    {heard : Message} (polite : Polite agent (.message datagram now))
    (parsed : parseMessage datagram = some heard)
    (step : CallStep (.hears heard) added agent (agent.step (.message datagram now))) :
    Courtesy (.hears heard) added agent := by
  have asked : agent.asked (.message datagram now) = added := by
    unfold UserAgent.asked
    rw [step.log, drop_left]
  refine ⟨fun request call asks => ?_, fun request call invite asks => ?_,
    fun request action same member rings => ?_⟩
  · cases asks.message
    exact (polite _ parsed asks.isRequest asks.addressed).1 asks.method call
  · cases asks.message
    exact (polite _ parsed asks.isRequest asks.addressed).2.1 asks.method call invite
  · cases same
    obtain ⟨_, _, found, ⟨⟩, welcomes⟩ :=
      rings_only_when_welcome agent (.message datagram now) (asked ▸ member) rings
    cases parsed.symm.trans welcomes.parsed
    exact (polite _ parsed welcomes.isRequest welcomes.addressed).2.2 welcomes

theorem UserAgent.Attends.retransmit {agent : UserAgent Host} (attends : agent.Attends)
    (now : Time) : (agent.retransmit now).Attends := by
  refine attends.goesOn (agent.retransmit_log now) ?_ ?_ (.of_none fun request => ?_)
    fun next here => ⟨next, ?_, .refl next⟩
  · exact filterMap_eq_nil_iff.mpr (forall_mem_map.mpr fun _ _ => rfl)
  · exact filterMap_eq_nil_iff.mpr (forall_mem_map.mpr fun _ _ => rfl)
  · exact filterMap_eq_nil_iff.mpr (forall_mem_map.mpr fun _ _ => rfl)
  · obtain ⟨host, equal⟩ := agent.retransmit_eq now
    rw [equal] at here
    exact here

theorem UserAgent.Attends.step {agent : UserAgent Host} (linked : agent.Linked)
    (attends : agent.Attends) {op : Op} (polite : Polite agent op) :
    (agent.step op).Linked ∧ (agent.step op).Attends := by
  rcases CallSteps.step agent op with
    ⟨datagram, now, heard, added, rfl, parsed, step⟩ | ⟨unheard, _, steps⟩
  · exact ⟨step.linked linked, step.attends linked (.of_polite polite parsed step) attends⟩
  · let invariant (agent : UserAgent Host) : Prop := agent.Linked ∧ agent.Attends
    have start : invariant (agent.resending op) := resending_keeps invariant
      (fun _ now both => ⟨both.1.retransmit now, both.2.retransmit now⟩) ⟨linked, attends⟩ op
    exact steps.keep invariant (fun step both =>
      ⟨step.linked both.1, step.attends both.1 (.of_unheard unheard _ _) both.2⟩) start

/-- Every ringing INVITE is concluded. In every run whose operations are polite, the INVITE of an
incoming call has had one final response when the end of the call is told, after nothing but 180s
and followed by copies of it only. -/
theorem ringing_concluded (config : UserAgentConfig) (host : Host) (random : Random)
    (ops : List Op)
    (polite : StepsMeet UserAgent.step Polite (UserAgent.create config host random) ops) :
    (run UserAgent.step (UserAgent.create config host random) ops).RingingConcluded := by
  have initial : (UserAgent.create config host random).Attends :=
    ⟨Each.of_forall fun _ member => (nomatch member), fun _ present => (nomatch present)⟩
  have kept : ∀ (agent : UserAgent Host) (op : Op), agent.Linked ∧ agent.Attends →
      Polite agent op → (agent.step op).Linked ∧ (agent.step op).Attends :=
    fun agent op both polite => both.2.step both.1 polite
  exact (run_keeps kept ⟨.of_idle rfl, initial⟩ polite).2.concluded

end Steps

/-- An INVITE that rings, is answered, and whose call is hung up before its ACK. -/
theorem hungUp_ringing_concluded :
    (run UserAgent.step UserAgent.ideal
      [.message strangerInvite 0, .answer 1000000 1, .hangup 1000000 2]).RingingConcluded := by
  refine ringing_concluded _ _ _ _
    ⟨fun request parsed _ _ => ⟨fun bye => ?_, fun _ _ _ present => ?_,
    fun _ => rfl⟩, trivial, trivial, trivial⟩
  · have method : (parseMessage strangerInvite).map Message.method = some (ascii "INVITE") := by
      decide +kernel
    rw [parsed, Option.map_some, bye] at method
    exact absurd method (by decide)
  · exact nomatch present

/-- A BYE for the call of that INVITE. -/
def strangerBye : Bytes :=
  ascii "BYE sip:100@10.0.0.9:5062 SIP/2.0\r\n" ++
    ascii "Via: SIP/2.0/UDP 10.0.0.1:5060;branch=z9hG4bKt\r\n" ++
    ascii "From: <sip:101@10.0.0.1>;tag=s\r\n" ++
    ascii "To: <sip:100@10.0.0.1>\r\n" ++
    ascii "Call-ID: in-1\r\n" ++
    ascii "CSeq: 2 BYE\r\n\r\n"

/-- A BYE ends a call that rings, and its INVITE has had nothing but a 180. -/
theorem leftRinging_not_concluded :
    ¬ ((UserAgent.ideal.step (.message strangerInvite 0)).step
      (.message strangerBye 1)).RingingConcluded := by
  let agent := (UserAgent.ideal.step (.message strangerInvite 0)).step (.message strangerBye 1)
  intro concluded
  have whole : agent.log =
      agent.log.dropLast ++ agent.log.getLast?.getD .closeMedia :: [] := by decide +kernel
  have ended : (agent.log.getLast?.getD .closeMedia).ended ≠ none := by decide +kernel
  have latest : inviteOf agent.log.dropLast = some ((parseMessage strangerInvite).getD {}) := by
    decide +kernel
  have rung : ∀ response ∈ answers (identity ((parseMessage strangerInvite).getD {}))
      agent.log.dropLast, response.status = 180 := by
    decide +kernel
  obtain ⟨final, isFinal, early, copies, equal, -⟩ := concluded _ _ _ whole ended _ latest
  have status := rung final (equal ▸ mem_append_right _ mem_cons_self)
  unfold Response.Final at isFinal
  omega

end KetPhone.Core
