import StepSync.Session.Basic

namespace StepSync.Session

/-!
# Actions on a session

An action turns a session into another one, says what happened, and ends with a
result or with a refusal. A refusal ends the action, and what was done up to
there stays done.
-/

/--
What an action leaves: the session, the notices in order, and the result
or the refusal.
-/
structure Outcome (Result : Type) where
  session : Session
  notices : List Notice
  result : Except Refusal Result

/-- Something done to a session. -/
def Action (Result : Type) : Type :=
  Session → Outcome Result

namespace Action

variable {First Result : Type}

/-- Do nothing. -/
protected def pure (result : Result) : Action Result :=
  fun session => ⟨session, [], .ok result⟩

/-- Do one thing and go on with its result. -/
protected def bind (action : Action First) (next : First → Action Result) :
    Action Result :=
  fun session =>
    match action session with
    | ⟨after, notices, .ok found⟩ =>
        let rest := next found after
        ⟨rest.session, notices ++ rest.notices, rest.result⟩
    | ⟨after, notices, .error refusal⟩ => ⟨after, notices, .error refusal⟩

instance : Monad Action where
  pure := Action.pure
  bind := Action.bind

/-- The session as it is. -/
def current : Action Session :=
  fun session => ⟨session, [], .ok session⟩

/-- Change the session. -/
def modify (change : Session → Session) : Action Unit :=
  fun session => ⟨change session, [], .ok ()⟩

/-- Tell the journal. -/
def note (notice : Notice) : Action Unit :=
  fun session => ⟨session, [notice], .ok ()⟩

/-- Tell the journal several things. -/
def noteAll (notices : List Notice) : Action Unit :=
  fun session => ⟨session, notices, .ok ()⟩

/-- Refuse, and do nothing more. -/
def refuse (refusal : Refusal) : Action Result :=
  fun session => ⟨session, [], .error refusal⟩

/-- Take a value from a message; a message that does not hold it is refused. -/
def decoded (decoder : Decoder Result) (reader : Reader) :
    Action (Result × Reader) :=
  match decoder reader with
  | (.ok found, after) => pure (found, after)
  | (.error failure, _) => refuse (.malformed failure)

/-- Let the health of the link change, and tell the journal what it has to say. -/
def updateHealth (change : Health → Health × List Health.Notice) :
    Action Unit := do
  let session ← current
  let (health, notices) := change session.health
  modify fun session => { session with health := health }
  noteAll (notices.map Notice.health)

/-- A result that is just given. -/
@[simp] theorem pure_apply (result : Result) (session : Session) :
    (pure result : Action Result) session = ⟨session, [], .ok result⟩ :=
  rfl

/--
What follows goes on with the session and the notices that were left, unless
there was a refusal.
-/
theorem bind_apply
    (action : Action First)
    (next : First → Action Result)
    (session : Session) :
    (action >>= next) session =
      match action session with
      | ⟨after, notices, .ok found⟩ =>
          let rest := next found after
          ⟨rest.session, notices ++ rest.notices, rest.result⟩
      | ⟨after, notices, .error refusal⟩ =>
          ⟨after, notices, .error refusal⟩ :=
  rfl

/-- The session that one thing after another leaves. -/
theorem session_bind
    (action : Action First)
    (next : First → Action Result)
    (session : Session) :
    ((action >>= next) session).session =
      match (action session).result with
      | .ok found => (next found (action session).session).session
      | .error _ => (action session).session := by
  rw [bind_apply]
  rcases action session with ⟨after, notices, found | refusal⟩ <;> rfl

/-- The result of one thing after another. -/
theorem result_bind
    (action : Action First)
    (next : First → Action Result)
    (session : Session) :
    ((action >>= next) session).result =
      match (action session).result with
      | .ok found => (next found (action session).session).result
      | .error refusal => .error refusal := by
  rw [bind_apply]
  rcases action session with ⟨after, notices, found | refusal⟩ <;> rfl

/-- A choice between actions is a choice between what they do. -/
theorem ite_apply
    (condition : Prop)
    [Decidable condition]
    (first second : Action Result)
    (session : Session) :
    (if condition then first else second) session =
      if condition then first session else second session := by
  split <;> rfl

@[simp] theorem current_apply (session : Session) :
    current session = ⟨session, [], .ok session⟩ :=
  rfl

/-- Looking at the session goes on with the session. -/
theorem current_bind (next : Session → Action Result) (session : Session) :
    (current >>= next) session = next session session :=
  rfl

/-- A value that is there is taken. -/
theorem decoded_bind_ok
    {decoder : Decoder First}
    {reader rest : Reader}
    {found : First}
    (taken : decoder reader = (.ok found, rest))
    (next : First × Reader → Action Result)
    (session : Session) :
    (decoded decoder reader >>= next) session =
      next (found, rest) session := by
  rw [decoded, taken]
  rfl

/-- A value that is not there ends the action. -/
theorem decoded_bind_error
    {decoder : Decoder First}
    {reader rest : Reader}
    {failure : CursorError}
    (missing : decoder reader = (.error failure, rest))
    (next : First × Reader → Action Result)
    (session : Session) :
    (decoded decoder reader >>= next) session =
      ⟨session, [], .error (.malformed failure)⟩ := by
  rw [decoded, missing]
  rfl

@[simp] theorem modify_apply
    (change : Session → Session)
    (session : Session) :
    modify change session = ⟨change session, [], .ok ()⟩ :=
  rfl

@[simp] theorem note_apply (notice : Notice) (session : Session) :
    note notice session = ⟨session, [notice], .ok ()⟩ :=
  rfl

@[simp] theorem noteAll_apply (notices : List Notice) (session : Session) :
    noteAll notices session = ⟨session, notices, .ok ()⟩ :=
  rfl

@[simp] theorem refuse_apply (refusal : Refusal) (session : Session) :
    (refuse refusal : Action Result) session =
      ⟨session, [], .error refusal⟩ :=
  rfl

end Action

end StepSync.Session
