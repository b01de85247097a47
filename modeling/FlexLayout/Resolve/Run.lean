import FlexLayout.Document.Message
import FlexLayout.Path
import FlexLayout.Style

/-!
# Runs

Resolving keeps a log and may fail. A run is the log up to its end together with its result: a
failure ends the run, and what was logged before it stays in the log.
-/

namespace FlexLayout.Resolve

/-- What becomes of a component that has no place in the tree. -/
inductive Policy where
  /-- It is left out, and its siblings stay. -/
  | skip
  /-- The whole message fails. -/
  | reject
  deriving DecidableEq, Repr

inductive Level where
  | warn | debug | trace
  deriving DecidableEq, Repr

instance : Keyword Level where
  all := [.warn, .debug, .trace]
  word
    | .warn => "warn"
    | .debug => "debug"
    | .trace => "trace"

/-- An entry of the log. -/
inductive Event where
  | message (altText kind : String)
  | bubble (size : BubbleSize) (path : Path)
  /-- A node is finished, after all below it. -/
  | resolved (kind : String) (path : Path)
  | skipped (kind : String) (path : Path)
  /-- A known component that is no span, inside a text. -/
  | ignored (kind : String) (path : Path)
  | lineSpacing (value : String) (path : Path)
  deriving DecidableEq, Repr

namespace Event

def level : Event → Level
  | lineSpacing .. => .warn
  | resolved .. => .trace
  | message .. | bubble .. | skipped .. | ignored .. => .debug

def text : Event → String
  | message altText kind => "Resolving flex message '" ++ altText ++ "' (" ++ kind ++ ")"
  | bubble size path => "Resolving " ++ Keyword.word size ++ " bubble at " ++ path.text
  | resolved kind path => "Resolved " ++ kind ++ " at " ++ path.text
  | skipped kind path => "Skipping unknown component '" ++ kind ++ "' at " ++ path.text
  | ignored kind path => "Ignoring " ++ kind ++ " inside text at " ++ path.text
  | lineSpacing value path =>
    "Unparsable lineSpacing '" ++ value ++ "' at " ++ path.text ++ ", using 1.4x"

end Event

/-- Why a document has no tree. -/
inductive Failure where
  /-- The text is no JSON. -/
  | malformed
  | envelope (fault : Document.Fault)
  | unknownComponent (kind : String) (path : Path)

def Failure.message : Failure → String
  | malformed => "Failed to parse flex message JSON"
  | envelope fault => fault.message
  | unknownComponent kind path =>
    "Component at '" ++ path.text ++ "' has an unrecognized type: '" ++ kind ++ "'"

structure Run (α : Type) where
  log : List Event
  result : Except Failure α

namespace Run

variable {α β : Type}

def pure (a : α) : Run α := ⟨[], .ok a⟩

def bind (r : Run α) (f : α → Run β) : Run β :=
  match r.result with
  | .ok a =>
    let next := f a
    ⟨r.log ++ next.log, next.result⟩
  | .error e => ⟨r.log, .error e⟩

instance : Monad Run where
  pure := Run.pure
  bind := Run.bind

/-- Adds an entry to the log. -/
def emit (e : Event) : Run Unit := ⟨[e], .ok ()⟩

def fail (e : Failure) : Run α := ⟨[], .error e⟩

end Run

/-- Meets a component that has no place in the tree. -/
def Policy.unknown (p : Policy) (kind : String) (path : Path) : Run Unit :=
  match p with
  | skip => Run.emit (.skipped kind path)
  | reject => Run.fail (.unknownComponent kind path)

end FlexLayout.Resolve
