import StepSync.Proofs.Message.Format
import StepSync.Proofs.Session.Composing
import StepSync.Proofs.Session.Lifecycle
import StepSync.Proofs.Session.Reply

namespace StepSync

/-!
# Being let in

A client says for which of its players it asks, and a server that lets them in
answers with a participant for each.  Two bounds meet there.  The request is cut
to `mostLocalParticipants`; the answer may name no more participants than the
settings allow, which can be fewer.  So an honest answer is taken if, and only if,
the settings allow as many participants as the client has asked for
(`receive_answer`); otherwise it is refused, nothing changes, and the client asks
again for the same players.
-/

/--
The answer gives each player of the request one participant, and no
other player any.
-/
structure JoinRequest.AnsweredBy
    (request : JoinRequest)
    (answer : JoinResponse) : Prop where
  nonce : answer.nonce = request.nonce
  players :
    (answer.participants.map Participant.localIndex).Perm
      request.localIndices

theorem JoinRequest.AnsweredBy.length
    {request : JoinRequest}
    {answer : JoinResponse}
    (answers : request.AnsweredBy answer) :
    answer.participants.length = request.localIndices.length := by
  rw [← answers.players.length_eq, List.length_map]

/-- Where each player has one participant, it is the one that is found. -/
theorem Participant.find?_eq_some
    {participants : List Participant}
    (distinct : (participants.map localIndex).Nodup)
    {participant : Participant}
    (member : participant ∈ participants) :
    participants.find? (fun other =>
        other.localIndex == participant.localIndex) =
      some participant := by
  induction participants with
  | nil => cases member
  | cons first others inductionHypothesis =>
      rw [List.map_cons, List.nodup_cons] at distinct
      obtain ⟨fresh, distinctOthers⟩ := distinct
      rcases List.mem_cons.mp member with rfl | later
      · exact List.find?_cons_of_pos (beq_self_eq_true _)
      · have apart : (first.localIndex == participant.localIndex) = false := by
          refine beq_false_of_ne fun same => ?_
          rw [same] at fresh
          exact fresh (List.mem_map_of_mem later)
        rw [List.find?_cons, apart]
        exact inductionHypothesis distinctOthers later

/-- A join response with few participants is read back behind its command. -/
theorem JoinResponse.exists_body
    {answer : JoinResponse}
    (few : answer.participants.length ≤ mostLocalParticipants) :
    ∃ body,
      answer.fields.flatten = Command.joinGameResponse.code :: body ∧
        decode.Reads body answer :=
  ⟨format.body answer, lawful_format.headed answer,
    lawful_format.restored answer (Nat.lt_of_le_of_lt few (by decide))⟩

namespace Session

namespace Action

/-- What follows a success decides the result in the end. -/
theorem Leaves.result_bind
    {First Result : Type}
    {action : Action First}
    {next : First → Action Result}
    {found : First}
    {session : Session}
    {before : Situation}
    (first : Leaves (action session) before (some found)) :
    ∃ middle : Session, middle.situation = before ∧
      ((action >>= next) session).result = (next found middle).result :=
  ⟨_, first.situation, (first.apply_bind next).2⟩

/-- The result of a command is that of the message behind it. -/
theorem result_takeCommand_code
    (command : Command)
    (position : Nat)
    (body : Octets)
    (session : Session) :
    (takeCommand ⟨position, command.code :: body⟩ session).result =
      ((acceptCommand command ⟨position + 1, body⟩ session).result).map
        fun _ => () := by
  have taken := Decoder.Reads.octet command.code position body
  rw [List.singleton_append] at taken
  rw [takeCommand, decoded_bind_ok taken]
  dsimp only
  rw [Command.ofCode?_code]
  change ((acceptCommand command _ >>= noteUnread command) session).result = _
  rw [Action.result_bind]
  simp only [List.length_singleton]
  cases (acceptCommand command ⟨position + 1, body⟩ session).result <;> rfl

end Action

section

variable
  {session : Session}
  {connection : Connection}
  {number : UInt16}

/-- Behind a seal and a number that are good, the message decides the result. -/
theorem result_acceptSealed
    (ahead : 0 < session.receiveSequence.distance number)
    (echo : Option UInt16)
    (command : Command)
    (body : Octets)
    (position : Nat) :
    ∃ (place : Nat) (middle : Session),
      middle.situation = session.situation ∧
        (Action.acceptSealed connection.secret
            ⟨position,
              Octets.ofWord32 (Seal.make connection.secret
                  (Octets.ofWord16 number ++
                    (Octets.ofEcho echo ++ command.code :: body))) ++
                (Octets.ofWord16 number ++
                  (Octets.ofEcho echo ++ command.code :: body))⟩
            session).result =
          ((Action.acceptCommand command ⟨place, body⟩ middle).result).map
            fun _ => () := by
  unfold Action.acceptSealed
  obtain ⟨keeps, finds⟩ := Action.checkSeal_spec connection.secret
    ⟨position,
      Octets.ofWord32 (Seal.make connection.secret
          (Octets.ofWord16 number ++
            (Octets.ofEcho echo ++ command.code :: body))) ++
        (Octets.ofWord16 number ++
          (Octets.ofEcho echo ++ command.code :: body))⟩
    session
  rw [Reader.afterSeal?_make] at finds
  have sealed : Action.Leaves _ session.situation _ :=
    ⟨congrArg situation keeps, finds⟩
  rw [(sealed.apply_bind _).2, keeps]
  have numbered := Action.Leaves.checkSequence
    ⟨position + 4,
      Octets.ofWord16 number ++
        (Octets.ofEcho echo ++ command.code :: body)⟩
    session
  rw [Reader.afterNumber?_of_ahead ahead] at numbered
  obtain ⟨accepted, same, goesOn⟩ := numbered.result_bind
  rw [goesOn]
  have echoed := Action.Leaves.takeEcho
    ⟨position + 4 + 2, Octets.ofEcho echo ++ command.code :: body⟩ accepted
  rw [Reader.afterEcho?_ofEcho] at echoed
  obtain ⟨middle, sameAgain, ends⟩ := echoed.result_bind
  rw [ends, Action.result_takeCommand_code]
  exact ⟨_, middle, sameAgain.trans same, rfl⟩

theorem result_receive (session : Session) (datagram : Octets) :
    (session.receive datagram).result =
      (Action.acceptDatagram datagram
        (session.countArrival datagram)).result := by
  unfold receive
  dsimp only
  split <;> rfl

/-- The result of a reply is that of its message, taken in the same situation. -/
theorem result_reply
    (connected : session.connection = some connection)
    (named : connection.id ≠ noConnectionId)
    (present : session.stage ≠ .disconnected)
    (ahead : 0 < session.receiveSequence.distance number)
    (echo : Option UInt16)
    (command : Command)
    (body : Octets) :
    ∃ (place : Nat) (middle : Session),
      middle.situation = session.situation ∧
        (session.receive
            (reply connection number echo (command.code :: body))).result =
          ((Action.acceptCommand command ⟨place, body⟩ middle).result).map
            fun _ => () := by
  let arrived : Session :=
    session.countArrival
      (reply connection number echo (command.code :: body))
  have stillConnected : arrived.connection = some connection := connected
  have stillPresent : arrived.stage ≠ .disconnected := present
  have stillAhead : 0 < arrived.receiveSequence.distance number := ahead
  rw [result_receive,
    acceptDatagram_reply stillConnected named stillPresent]
  exact result_acceptSealed stillAhead echo command body _

/--
An answer to the request that is pending is taken if the settings allow as
many participants.
-/
theorem result_acceptMembership
    {request : JoinRequest}
    {answer : JoinResponse}
    (joining : session.progress = .joining)
    (asked : session.joinRequest = some request)
    (sameNonce : answer.nonce = request.nonce)
    (few : answer.participants.length ≤ mostLocalParticipants) :
    (Action.acceptMembership answer session).result =
      if answer.participants.length ≤ session.settings.participants.toNat then
        .ok ()
      else .error (.tooManyParticipants answer.participants.length) := by
  have notTooMany : ¬mostLocalParticipants < answer.participants.length :=
    Nat.not_lt.mpr few
  by_cases fits :
      answer.participants.length ≤ session.settings.participants.toNat
  · simp [Action.acceptMembership, Action.result_bind, joining, asked,
      sameNonce, notTooMany, fits, Nat.not_lt.mpr fits]
  · simp [Action.acceptMembership, Action.result_bind, joining, asked,
      sameNonce, fits, Nat.lt_of_not_le fits]

section

variable
  (connected : session.connection = some connection)
  (named : connection.id ≠ noConnectionId)
  (present : session.stage ≠ .disconnected)
  (ahead : 0 < session.receiveSequence.distance number)
  (echo : Option UInt16)
  {answer : JoinResponse}
  (few : answer.participants.length ≤ mostLocalParticipants)

include connected named present ahead few

theorem situation_answer :
    (session.receive
        (reply connection number echo
          answer.fields.flatten)).session.situation =
      session.situation.acceptMembership answer := by
  obtain ⟨body, written, reads⟩ := JoinResponse.exists_body few
  rw [situation_receive, written,
    delivery_reply connected named present ahead]
  exact congrArg session.situation.accept
    (Delivery.ofMessage_of_reads reads .membership _)

section

variable
  {request : JoinRequest}
  (joining : session.progress = .joining)
  (asked : session.joinRequest = some request)
  (sameNonce : answer.nonce = request.nonce)

include joining asked sameNonce

theorem result_answer :
    (session.receive
        (reply connection number echo answer.fields.flatten)).result =
      if answer.participants.length ≤ session.settings.participants.toNat then
        .ok ()
      else .error (.tooManyParticipants answer.participants.length) := by
  obtain ⟨body, written, reads⟩ := JoinResponse.exists_body few
  obtain ⟨place, middle, same, ends⟩ :=
    result_reply connected named present ahead echo .joinGameResponse body
  have taken := reads place []
  rw [List.append_nil] at taken
  have stillJoining : middle.progress = .joining :=
    (congrArg Situation.progress same).trans joining
  have stillAsked : middle.joinRequest = some request :=
    (congrArg Situation.joinRequest same).trans asked
  have decides := result_acceptMembership stillJoining stillAsked sameNonce few
  have settings : middle.settings = session.settings :=
    congrArg Situation.settings same
  rw [settings] at decides
  rw [written, ends, Action.acceptCommand, Action.acceptMessage,
    Action.decoded_bind_ok taken, Action.result_bind]
  by_cases fits :
      answer.participants.length ≤ session.settings.participants.toNat
  · rw [if_pos fits] at decides ⊢
    rw [decides]
    rfl
  · rw [if_neg fits] at decides ⊢
    rw [decides]
    rfl

/-- An answer for as many participants as the settings allow lets the players in. -/
theorem answer_taken
    (fits :
      answer.participants.length ≤ session.settings.participants.toNat) :
    let outcome :=
      session.receive (reply connection number echo answer.fields.flatten)
    outcome.result = .ok () ∧
      outcome.session.progress = .joined ∧
      outcome.session.participants = answer.participants := by
  intro outcome
  have result : outcome.result = _ :=
    result_answer connected named present ahead echo few joining asked
      sameNonce
  rw [if_pos fits] at result
  have leaves : outcome.session.situation = _ :=
    situation_answer connected named present ahead echo few
  have pending :
      session.situation.joinRequest.map JoinRequest.nonce =
        some answer.nonce := by
    rw [show session.situation.joinRequest = _ from asked, sameNonce]
    rfl
  rw [Situation.acceptMembership,
    if_pos ⟨joining, pending, Nat.le_min.mpr ⟨few, fits⟩⟩] at leaves
  exact ⟨result, congrArg Situation.progress leaves,
    congrArg
      (fun situation =>
        situation.membership.elim [] Membership.participants)
      leaves⟩

/-- An answer for more participants is refused, and changes nothing. -/
theorem answer_refused
    (tooMany :
      ¬answer.participants.length ≤ session.settings.participants.toNat) :
    let outcome :=
      session.receive (reply connection number echo answer.fields.flatten)
    outcome.result =
        .error (.tooManyParticipants answer.participants.length) ∧
      outcome.session.situation = session.situation := by
  intro outcome
  have result : outcome.result = _ :=
    result_answer connected named present ahead echo few joining asked
      sameNonce
  rw [if_neg tooMany] at result
  have leaves : outcome.session.situation = _ :=
    situation_answer connected named present ahead echo few
  rw [Situation.acceptMembership,
    if_neg fun all => tooMany (Nat.le_min.mp all.2.2).2] at leaves
  exact ⟨result, leaves⟩

end

end

/--
Who was let in by an answer to its request finds a participant for each
of its players.
-/
theorem exists_findParticipant
    {request : JoinRequest}
    {answer : JoinResponse}
    (distinct : request.localIndices.Nodup)
    (answers : request.AnsweredBy answer)
    (member : session.participants = answer.participants) :
    ∀ index ∈ request.localIndices,
      ∃ participant ∈ answer.participants,
        participant.localIndex = index ∧
          session.findParticipant index = some participant.id := by
  intro index wanted
  obtain ⟨participant, given, rfl⟩ :=
    List.mem_map.mp (answers.players.mem_iff.mpr wanted)
  refine ⟨participant, given, rfl, ?_⟩
  rw [findParticipant, member,
    Participant.find?_eq_some (answers.players.nodup_iff.mpr distinct) given]
  rfl

end

/--
A client asks to be let in for the players it was told of, cut to as many as a
client may have.  The honest answer is taken, and then each player's participant
is found, if the settings allow as many participants as that; if they do not, the
answer is refused, and the client goes on as before.
-/
theorem receive_answer
    (settings : Settings)
    (events : List Event)
    (given : JoinRequest)
    (answer : JoinResponse)
    (connection : Connection)
    (number : UInt16)
    (echo : Option UInt16)
    (requesting :
      ((create settings).1.afterAll events).stage = .requestingState)
    (joining : ((create settings).1.afterAll events).progress = .joining)
    (asked :
      ((create settings).1.afterAll events).joinRequest =
        some (cutJoinRequest given))
    (distinct : (cutJoinRequest given).localIndices.Nodup)
    (answers : (cutJoinRequest given).AnsweredBy answer)
    (connected :
      ((create settings).1.afterAll events).connection = some connection)
    (ahead :
      0 < ((create settings).1.afterAll events).receiveSequence.distance
        number) :
    let session := (create settings).1.afterAll events
    let outcome :=
      session.receive (reply connection number echo answer.fields.flatten)
    session.situation.dueMessage? = some (.join (cutJoinRequest given)) ∧
      if min given.localIndices.length mostLocalParticipants ≤
          settings.clamp.1.participants.toNat then
        outcome.result = .ok () ∧
          outcome.session.progress = .joined ∧
          ∀ index ∈ (cutJoinRequest given).localIndices,
            ∃ participant ∈ answer.participants,
              participant.localIndex = index ∧
                outcome.session.findParticipant index = some participant.id
      else
        outcome.result =
            .error (.tooManyParticipants answer.participants.length) ∧
          outcome.session.situation = session.situation := by
  intro session outcome
  have settled : session.settings = settings.clamp.1 :=
    settings_afterAll settings events
  have present : session.stage ≠ .disconnected := by
    rw [show session.stage = _ from requesting]
    nofun
  have named : connection.id ≠ noConnectionId :=
    named_of_coherent (coherent_afterAll settings events) present connection
      connected
  have count :
      answer.participants.length =
        min given.localIndices.length mostLocalParticipants := by
    rw [answers.length, cutJoinRequest, List.length_take, Nat.min_comm]
  have few : answer.participants.length ≤ mostLocalParticipants := by
    rw [count]
    exact Nat.min_le_right _ _
  refine ⟨?_, ?_⟩
  · simp [Situation.dueMessage?, situation, session, requesting, joining,
      asked]
  rw [← count, ← settled]
  split
  case isTrue fits =>
    obtain ⟨result, progress, member⟩ :=
      answer_taken connected named present ahead echo few joining asked
        answers.nonce fits
    exact ⟨result, progress, exists_findParticipant distinct answers member⟩
  case isFalse tooMany =>
    exact answer_refused connected named present ahead echo few joining asked
      answers.nonce tooMany

/-- On connection 7 a client asks to be let in with two players. -/
def askingForTwo : List Event :=
  [.asked .requestConnect,
    .received
      (unsealedMessage (ConnectResponse.fields ⟨7, ConnectFlags.none, 11⟩)),
    .asked (.assignJoinRequest ⟨13, [0, 1]⟩),
    .asked .beginJoin]

/-- The honest answer to a client that asks for two players. -/
def answerForTwo : JoinResponse :=
  ⟨13, 0, 17, [⟨1, 4⟩, ⟨0, 3⟩]⟩

theorem answeredBy_answerForTwo :
    (cutJoinRequest ⟨13, [0, 1]⟩).AnsweredBy answerForTwo where
  nonce := rfl
  players := .swap 0 1 []

/-- The answer for two players is taken under the standard settings. -/
theorem receive_answerForTwo :
    let session := (create Settings.standard).1.afterAll askingForTwo
    let outcome :=
      session.receive
        (reply ⟨7, 11, false⟩ 1 none answerForTwo.fields.flatten)
    outcome.result = .ok () ∧ outcome.session.findParticipant 0 = some 3 := by
  intro session outcome
  have taken := (receive_answer Settings.standard askingForTwo ⟨13, [0, 1]⟩
    answerForTwo ⟨7, 11, false⟩ 1 none (by decide +kernel)
    (by decide +kernel) (by decide +kernel) (by decide)
    answeredBy_answerForTwo (by decide +kernel) (by decide +kernel)).2
  rw [if_pos (by decide)] at taken
  obtain ⟨result, _, found⟩ := taken
  obtain ⟨participant, member, named, finds⟩ := found 0 (by decide)
  refine ⟨result, finds.trans ?_⟩
  have only :
      ∀ participant ∈ answerForTwo.participants,
        participant.localIndex = 0 → participant.id = 3 := by
    decide
  rw [only participant member named]

/-- The same settings, for a client with one player. -/
def settingsForOne : Settings :=
  { Settings.standard with participants := 1 }

/--
A client that is set up for one player, and asks for two, refuses the
honest answer.
-/
theorem honest_answer_not_always_taken :
    ¬∀ (settings : Settings) (events : List Event) (given : JoinRequest)
        (answer : JoinResponse) (connection : Connection) (number : UInt16)
        (echo : Option UInt16),
        ((create settings).1.afterAll events).stage = .requestingState →
          ((create settings).1.afterAll events).progress = .joining →
            ((create settings).1.afterAll events).joinRequest =
                some (cutJoinRequest given) →
              (cutJoinRequest given).localIndices.Nodup →
                (cutJoinRequest given).AnsweredBy answer →
                  ((create settings).1.afterAll events).connection =
                      some connection →
                    0 < ((create settings).1.afterAll
                        events).receiveSequence.distance number →
                      (((create settings).1.afterAll events).receive
                          (reply connection number echo
                            answer.fields.flatten)).result =
                        .ok () := by
  intro taken
  have result := taken settingsForOne askingForTwo ⟨13, [0, 1]⟩ answerForTwo
    ⟨7, 11, false⟩ 1 none (by decide +kernel) (by decide +kernel)
    (by decide +kernel) (by decide) answeredBy_answerForTwo
    (by decide +kernel) (by decide +kernel)
  have refused :
      (((create settingsForOne).1.afterAll askingForTwo).receive
          (reply ⟨7, 11, false⟩ 1 none
            answerForTwo.fields.flatten)).result.toOption =
        none := by
    decide +kernel
  rw [result] at refused
  cases refused

end Session

end StepSync
