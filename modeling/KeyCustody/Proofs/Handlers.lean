import KeyCustody.Log.Sink

/-!
The root logger with its handlers, set up as it is asked for: first the old handlers go, then the
level is set, which may fail, and then the new handler comes in. However often that is done there is
one handler at most, and a sink stands for a root logger of that kind.
-/

set_option autoImplicit false

namespace KeyCustody.Log

-- A record on its way to a handler, with the tags that a filter has put on it.
structure Draft where
  entry : Entry
  tags : Option Scope

inductive Filter where
  | scope

-- No filter drops a record. The one for scopes copies the active scope onto it.
def Filter.pass (draft : Draft) : Filter → Draft
  | .scope => { draft with tags := some draft.entry.scope }

-- A text line has a place for the tags, so there is none without them; a JSON line goes without.
def Draft.line? (draft : Draft) : Format → Option Text
  | .text => draft.tags.bind fun tags => { draft.entry with scope := tags }.line? .text
  | .json => { draft.entry with scope := draft.tags.getD .empty }.line? .json

structure Handler where
  format : Format
  filters : List Filter

namespace Handler

def tagging (format : Format) : Handler := ⟨format, [.scope]⟩

def line? (handler : Handler) (entry : Entry) : Option Text :=
  (handler.filters.foldl Filter.pass ⟨entry, none⟩).line? handler.format

theorem tagging_line (format : Format) (entry : Entry) :
    (tagging format).line? entry = entry.line? format := by
  cases format <;> rfl

end Handler

structure Root where
  handlers : List Handler
  level : Int

namespace Root

def clear (root : Root) : Root := { root with handlers := [] }

def setLevel (root : Root) (choice : LevelChoice) : Except Fault Root :=
  choice.level.map fun level => { root with level := level }

def addHandler (root : Root) (handler : Handler) : Root :=
  { root with handlers := root.handlers ++ [handler] }

def setup (root : Root) (choice : LevelChoice) (format : Format) : Root × Except Fault Unit :=
  match root.clear.setLevel choice with
  | .error fault => (root.clear, .error fault)
  | .ok levelled => (levelled.addHandler (.tagging format), .ok ())

-- The lines of a record, one from each handler that has one for it.
def lines (root : Root) (entry : Entry) : List Text :=
  if 0 < entry.level ∧ root.level ≤ entry.level then root.handlers.filterMap (·.line? entry)
  else []

def write (root : Root) (entry : Entry) : Text :=
  (root.lines entry).flatMap fun line => line ++ ("\n" : Text)

theorem setup_succeeds (root : Root) (choice : LevelChoice) (format : Format) (level : Int)
    (known : choice.level = .ok level) :
    root.setup choice format = (⟨[.tagging format], level⟩, .ok ()) := by
  rw [setup, setLevel, known]
  rfl

theorem setup_fails (root : Root) (choice : LevelChoice) (format : Format) (fault : Fault)
    (unknown : choice.level = .error fault) :
    root.setup choice format = (⟨[], root.level⟩, .error fault) := by
  rw [setup, setLevel, unknown]
  rfl

theorem lines_once (format : Format) (level : Int) (entry : Entry) (positive : 0 < entry.level)
    (loud : level ≤ entry.level) :
    lines ⟨[.tagging format], level⟩ entry = (entry.line? format).toList := by
  rw [lines, if_pos ⟨positive, loud⟩, List.filterMap_cons, Handler.tagging_line]
  cases entry.line? format <;> rfl

end Root

namespace Sink

def root (sink : Sink) : Root := ⟨sink.handler.toList.map .tagging, sink.level⟩

theorem setup_root (sink : Sink) (choice : LevelChoice) (format : Format) :
    (sink.setup choice format).1.root = (sink.root.setup choice format).1 ∧
      (sink.setup choice format).2 = (sink.root.setup choice format).2 := by
  rw [setup]
  cases known : choice.level with
  | error fault =>
      rw [Root.setup_fails _ choice format fault known]
      exact ⟨rfl, rfl⟩
  | ok level =>
      rw [Root.setup_succeeds _ choice format level known]
      exact ⟨rfl, rfl⟩

theorem write_root (sink : Sink) (entry : Entry) : sink.write entry = sink.root.write entry := by
  obtain ⟨handler, level⟩ := sink
  cases handler with
  | none =>
      change [] = Root.write ⟨[], level⟩ entry
      rw [Root.write, Root.lines]
      split <;> rfl
  | some format =>
      change (if _ then _ else _) = Root.write ⟨[.tagging format], level⟩ entry
      rw [Root.write]
      by_cases loud : 0 < entry.level ∧ level ≤ entry.level
      · have admitted : Sink.admits ⟨some format, level⟩ entry.level = true := by
          simp [admits, loud]
        rw [if_pos admitted, Root.lines_once format level entry loud.1 loud.2]
        cases entry.line? format with
        | none => rfl
        | some line => exact (List.append_nil (line ++ ("\n" : Text))).symm
      · have dropped : ¬ Sink.admits ⟨some format, level⟩ entry.level = true := by
          simp only [admits, Bool.and_eq_true, decide_eq_true_eq]
          exact loud
        rw [if_neg dropped, Root.lines, if_neg loud]
        rfl

end Sink

end KeyCustody.Log
