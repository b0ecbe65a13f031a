import KeyCustody.Proofs.Commands
import KeyCustody.Proofs.Scopes

/-!
Programs that open scopes as blocks. A program asks a session for work, looks at each answer, and
may fail at any place; a failure leaves the blocks that it passes through and can be caught behind
any of them. Inside, the scope is told by the blocks that are open; behind a block it is the one in
front of it.
-/

set_option autoImplicit false

namespace KeyCustody

-- What a program can fail with: the fault of a command, or something of its own.
inductive Raised where
  | fault (fault : Fault)
  | own (text : Text)

def raised (answer : Except Fault Reply) : Except Raised Reply := answer.mapError .fault

-- Programs have blocks in place of the commands for scopes.
structure Work where
  step : Session.Step
  plain : step.command.isScoping = false

inductive Program where
  | finish (answer : Except Raised Reply)
  | work (work : Work) (next : Response → Program)
  /-- Reads the registry and changes it in one go. -/
  | access (change : Registry → Registry) (next : Registry → Program)
  | block (keywords : Keywords) (body : Program) (next : Except Raised Reply → Program)

-- Where a program ends, the records it made on the way, and its answer.
structure Ending where
  session : Session
  records : List Log.Entry
  answer : Except Raised Reply

def Ending.behind (records : List Log.Entry) (ending : Ending) : Ending :=
  { ending with records := records ++ ending.records }

namespace Session

-- A failure goes on behind a block unless the block keeps it back.
def passOn (left : Except Fault Reply) (answer : Except Raised Reply) : Except Raised Reply :=
  match left with
  | .ok (.closed true) => .ok .nothing
  | _ => answer

variable (S : Scheme)

def inBlock (session : Session) (keywords : Keywords) (body : Session → Ending) : Ending :=
  let (inside, entered) := session.perform S (.enterScope keywords.tags)
  match entered.answer with
  | .error fault => ⟨inside, [], .error (.fault fault)⟩
  | .ok _ =>
    let ending := body inside
    let (outside, left) := ending.session.perform S (.leaveScope (!ending.answer.isOk))
    ⟨outside, ending.records, passOn left.answer ending.answer⟩

def exec (session : Session) : Program → Ending
  | .finish answer => ⟨session, [], answer⟩
  | .work work next =>
    let (later, response) := session.advance S work.step
    (exec later (next response)).behind ((session.timed work.step).records S work.step.command)
  | .access change next =>
    exec { session with registry := change session.registry } (next session.registry)
  | .block keywords body next =>
    let ending := session.inBlock S keywords fun inside => exec inside body
    (exec ending.session (next ending.answer)).behind ending.records

-- A session at some place of a program, and the blocks that are open there, the innermost first.
inductive Visits : Session → Program → List Keywords → Session → Prop
  | here (session : Session) (program : Program) : Visits session program [] session
  | work (session : Session) (work : Work) (next : Response → Program) (blocks : List Keywords)
      (place : Session)
      (later : Visits (session.advance S work.step).1 (next (session.advance S work.step).2) blocks
        place) : Visits session (.work work next) blocks place
  | access (session : Session) (change : Registry → Registry) (next : Registry → Program)
      (blocks : List Keywords) (place : Session)
      (later : Visits { session with registry := change session.registry } (next session.registry)
        blocks place) : Visits session (.access change next) blocks place
  | inside (session : Session) (keywords : Keywords) (body : Program)
      (next : Except Raised Reply → Program) (blocks : List Keywords) (place : Session)
      (reply : Reply)
      (entered : (session.perform S (.enterScope keywords.tags)).2.answer = .ok reply)
      (within : Visits (session.perform S (.enterScope keywords.tags)).1 body blocks place) :
      Visits session (.block keywords body next) (blocks ++ [keywords]) place
  | after (session : Session) (keywords : Keywords) (body : Program)
      (next : Except Raised Reply → Program) (blocks : List Keywords) (place : Session)
      (later : Visits (session.inBlock S keywords fun inside => inside.exec S body).session
        (next (session.inBlock S keywords fun inside => inside.exec S body).answer) blocks place) :
      Visits session (.block keywords body next) blocks place

/-! ## One block -/

def entering (session : Session) (keywords : Keywords) : Session :=
  { session with scopes := session.scope.within keywords.scope :: session.scopes }

theorem enter_known (session : Session) (keywords : Keywords) (known : keywords.Known) :
    session.perform S (.enterScope keywords.tags) =
      (session.entering keywords, ⟨.ok (.opened (session.scope.within keywords.scope)), []⟩) := by
  rw [perform, enterScope, keywords.of_tags_known known]
  rfl

theorem enter_unknown (session : Session) (keywords : Keywords) (unknown : ¬ keywords.Known) :
    session.perform S (.enterScope keywords.tags) =
      (session, ⟨.error (.scopeTags (Scope.unknownNames keywords.tags)), []⟩) := by
  rw [perform, enterScope, keywords.of_tags_unknown unknown]
  rfl

theorem leave_passes (session : Session) (raising : Bool) (answer : Except Raised Reply) :
    passOn (session.perform S (.leaveScope raising)).2.answer answer = answer := by
  cases raising <;> rfl

theorem block_unknown (session : Session) (keywords : Keywords) (body : Session → Ending)
    (unknown : ¬ keywords.Known) :
    session.inBlock S keywords body =
      ⟨session, [], .error (.fault (.scopeTags (Scope.unknownNames keywords.tags)))⟩ := by
  rw [inBlock, enter_unknown S session keywords unknown]

theorem block_known (session : Session) (keywords : Keywords) (body : Session → Ending)
    (known : keywords.Known) :
    session.inBlock S keywords body =
      { body (session.entering keywords) with
        session := { (body (session.entering keywords)).session with
          scopes := (body (session.entering keywords)).session.scopes.tail } } := by
  rw [inBlock, enter_known S session keywords known]
  dsimp only
  rw [leave_passes]
  simp [perform, leaveScope]

/-! ## Whole programs -/

theorem perform_scopes (session : Session) (command : Command)
    (plain : command.isScoping = false) :
    (session.perform S command).1.scopes = session.scopes := by
  rcases perform_changes S session command with ⟨_, changed⟩ | ⟨scoping, _⟩ | ⟨_, _, _, changed⟩
  · rw [changed]
  · rw [plain] at scoping
    cases scoping
  · rw [changed]
    rfl

theorem advance_scopes (session : Session) (work : Work) :
    (session.advance S work.step).1.scopes = session.scopes := by
  rw [advance_timed, perform_scopes S _ _ work.plain, timed]
  cases work.step.time <;> rfl

theorem block_scopes (session : Session) (keywords : Keywords) (body : Session → Ending)
    (kept : ∀ inside, (body inside).session.scopes = inside.scopes) :
    (session.inBlock S keywords body).session.scopes = session.scopes := by
  by_cases known : keywords.Known
  · rw [block_known S session keywords body known]
    exact congrArg List.tail (kept (session.entering keywords))
  · rw [block_unknown S session keywords body known]

theorem exec_scopes (session : Session) (program : Program) :
    (session.exec S program).session.scopes = session.scopes := by
  induction program generalizing session with
  | finish answer => rfl
  | work work next ih => exact (ih _ _).trans (advance_scopes S session work)
  | access change next ih => exact ih _ _
  | block keywords body next bodyKeeps ih =>
      exact (ih _ _).trans (block_scopes S session keywords _ fun inside => bodyKeeps inside)

-- The open scopes at a place lie over those from outside, one for each open block.
def stacked (session : Session) : List Keywords → List Scope
  | [] => session.scopes
  | block :: older => nested session.scope (block :: older) :: stacked session older

theorem stacked_scope (session : Session) (blocks : List Keywords) :
    (stacked session blocks).headD .empty = nested session.scope blocks := by
  cases blocks <;> rfl

theorem nested_entering (session : Session) (keywords : Keywords) (blocks : List Keywords) :
    nested (session.entering keywords).scope blocks =
      nested session.scope (blocks ++ [keywords]) := by
  induction blocks with
  | nil => rfl
  | cons block older ih => rw [nested, ih, List.cons_append, nested]

theorem stacked_entering (session : Session) (keywords : Keywords) (blocks : List Keywords) :
    stacked (session.entering keywords) blocks = stacked session (blocks ++ [keywords]) := by
  induction blocks with
  | nil => rfl
  | cons block older ih =>
      rw [stacked, ih, nested_entering, List.cons_append, stacked]

theorem stacked_same (session later : Session) (same : later.scopes = session.scopes)
    (blocks : List Keywords) : stacked later blocks = stacked session blocks := by
  have scopes : later.scope = session.scope := by rw [scope, scope, same]
  induction blocks with
  | nil => exact same
  | cons block older ih => rw [stacked, stacked, ih, scopes]

theorem visits_stacked (session : Session) (program : Program) (blocks : List Keywords)
    (place : Session) (visits : Visits S session program blocks place) :
    place.scopes = stacked session blocks := by
  induction visits with
  | here session program => rfl
  | work session work next blocks place later ih =>
      exact ih.trans (stacked_same session _ (advance_scopes S session work) blocks)
  | access session change next blocks place later ih =>
      exact ih.trans
        (stacked_same session { session with registry := change session.registry } rfl blocks)
  | inside session keywords body next blocks place reply entered within ih =>
      by_cases known : keywords.Known
      · rw [enter_known S session keywords known] at ih
        rw [ih, stacked_entering]
      · rw [enter_unknown S session keywords known] at entered
        cases entered
  | after session keywords body next blocks place later ih =>
      exact ih.trans (stacked_same session _
        (block_scopes S session keywords _ fun inside => exec_scopes S inside body) blocks)

theorem visits_within (session : Session) (program : Program) (blocks : List Keywords)
    (place : Session) (visits : Visits S session program blocks place) :
    ScopeWithin session.scope blocks place.scope := by
  have nests : place.scope = nested session.scope blocks := by
    rw [scope, visits_stacked S session program blocks place visits, stacked_scope]
  rw [nests]
  exact nested_within session.scope blocks

end Session

end KeyCustody
