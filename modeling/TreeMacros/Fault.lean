import TreeMacros.Span

/-! # Faults

Everything that can go wrong has a `Cause`; the wording of a cause is `Cause.message` and the
family it belongs to is `Cause.kind`. A `Fault` is a cause together with the place it is blamed
on. `Fault.locate` does so once: the innermost place wins.
-/

namespace TreeMacros

/-- The family of a fault. -/
inductive FaultKind where
  /-- An unknown name, or a target that cannot be assigned. -/
  | scope
  /-- A malformed form. -/
  | shape
  /-- Something that cannot be called. -/
  | call
  /-- A value that is no node. -/
  | coercion
  /-- An operand of the wrong type. -/
  | type
  /-- A runner process or a worker that failed. -/
  | isolation
  /-- A failed assertion of a macro body. -/
  | assertion
  /-- Text that is not of the wire format. -/
  | serialization
  /-- Invalid settings. -/
  | config
  /-- A limit of the machine itself. -/
  | internal
  deriving Repr, DecidableEq, Inhabited

namespace FaultKind

/-- The name of the family. -/
def name : FaultKind → String
  | scope => "Scope"
  | shape => "Shape"
  | call => "Call"
  | coercion => "Coercion"
  | type => "Type"
  | isolation => "Isolation"
  | assertion => "Assertion"
  | serialization => "Serialization"
  | config => "Config"
  | internal => "Internal"

/-- What stands before the message when a fault of this family is shown. -/
def heading : FaultKind → String
  | serialization => "Serialization error: "
  | config => "Configuration error: "
  | internal => "Internal error: "
  | _ => ""

end FaultKind

/-- Why something failed. -/
inductive Cause where
  /-- A failure that the host reports in its own words. -/
  | host (kind : FaultKind) (text : String)
  | unknownSymbol (name : String)
  /-- An operator without operands. -/
  | danglingOperator (operator : String)
  /-- An operator that is due before its operands are there. -/
  | missingOperand
  | assignmentTarget
  | lambdaParameters
  | lambdaParameterNames
  | functionForm
  | functionParameterNames
  | loopVariable
  | loopIterable
  | pipeTargetNamed (name : String)
  | pipeTarget
  | callTarget
  | memberTarget (member : String)
  | notCallable (typeName : String)
  | unsupportedOperator (operator : String)
  | operandTypes (operator left right : String)
  | indexType (typeName : String)
  | notIndexable (typeName : String)
  | notText
  | noSourceParser
  /-- An assertion failed; a falsy message stands for none. -/
  | assertionFailed (message : Option String)
  | notNode (shown : String)
  | unquotedOperand
  | escapedReturn
  | depthExceeded (limit : Nat)
  | deadlinePassed
  | definitionForm
  | definitionParameterNames
  | expansionDepthExceeded (limit : Nat)
  | operandCount (produced : Nat)
  /-- A request, node or other wire structure that cannot be read. The complaint is the reader's. -/
  | unreadable (complaint : String)
  /-- Settings that cannot be read. What their reader complains about is not kept. -/
  | unreadableSettings (what : String)
  | unknownRuntime (text : String)
  | notNatural (key text : String)
  | workerIsAsynchronous
  | runnerFailed (detail : String)
  | runnerTimeout (milliseconds : Nat)
  /-- The runner could not be started. -/
  | runnerNotStarted (detail : String)
  | runnerSilent
  /-- The runner wrote something that is no response. The complaint is the reader's. -/
  | runnerUnreadable (complaint : String)
  | runnerRefused (detail : String)
  | workerFailed (detail : String)
  deriving Repr, DecidableEq, Inhabited

namespace Cause

/-- The family a cause belongs to. -/
def kind : Cause → FaultKind
  | host kind _ => kind
  | unknownSymbol _ | assignmentTarget => .scope
  | danglingOperator _ | missingOperand | lambdaParameters | lambdaParameterNames
  | functionForm | functionParameterNames | loopVariable | unsupportedOperator _
  | definitionForm | definitionParameterNames | operandCount _ => .shape
  | pipeTargetNamed _ | pipeTarget | callTarget | memberTarget _ | notCallable _
  | noSourceParser => .call
  | notNode _ | unquotedOperand => .coercion
  | loopIterable | operandTypes .. | indexType _ | notIndexable _ | notText => .type
  | assertionFailed _ => .assertion
  | unreadable _ => .serialization
  | unreadableSettings _ | unknownRuntime _ | notNatural .. | workerIsAsynchronous => .config
  | escapedReturn | depthExceeded _ | deadlinePassed | expansionDepthExceeded _ => .internal
  | runnerFailed _ | runnerTimeout _ | runnerNotStarted _ | runnerSilent | runnerUnreadable _
  | runnerRefused _ | workerFailed _ => .isolation

/-- The wording of a cause. -/
def message : Cause → String
  | host _ text => text
  | unknownSymbol name => "Unknown macro symbol: " ++ name
  | danglingOperator operator => "Malformed expression near operator '" ++ operator ++ "'"
  | missingOperand => "Malformed expression"
  | assignmentTarget => "Macro assignment left side must be identifier"
  | lambdaParameters => "Invalid lambda params"
  | lambdaParameterNames => "Lambda params must be identifiers"
  | functionForm => "Macro \x7bfun ...\x7d must be \x7bfun name [args] ...\x7d"
  | functionParameterNames => "fun args must be identifiers"
  | loopVariable => "for requires identifier variable"
  | loopIterable => "for iterable must evaluate to array"
  | pipeTargetNamed name => "Pipe target '" ++ name ++ "' is not callable"
  | pipeTarget => "Pipe target is not callable"
  | callTarget => "Macro call target is not callable"
  | memberTarget member => "Macro member '" ++ member ++ "' is not callable"
  | notCallable typeName => "Value of type " ++ typeName ++ " is not callable"
  | unsupportedOperator operator => "Unsupported macro binop: " ++ operator
  | operandTypes operator left right =>
    "Cannot apply '" ++ operator ++ "' to " ++ left ++ " and " ++ right
  | indexType typeName => "Index must be a number, got " ++ typeName
  | notIndexable typeName => "Cannot index " ++ typeName
  | notText => "parse expects string"
  | noSourceParser => "parse is unavailable: no source parser is attached to this macro context"
  | assertionFailed message => message.getD "Macro assertion failed"
  | notNode shown => "Macro returned value that cannot be converted to AST node: " ++ shown
  | unquotedOperand => "Unquote produced invalid binop side"
  | escapedReturn => "return signal escaped its function boundary"
  | depthExceeded limit => "Macro evaluation exceeded maximum depth of " ++ limit.repr
  | deadlinePassed => "Macro evaluation ran past its deadline"
  | definitionForm => "Macro definition must be \x7bdef macro name [params] ...\x7d"
  | definitionParameterNames => "Macro params must be identifiers"
  | expansionDepthExceeded limit => "Macro expansion exceeded maximum depth of " ++ limit.repr
  | operandCount produced =>
    "Macro expansion in operand position produced " ++ produced.repr ++ " nodes, expected 1"
  | unreadable complaint => complaint
  | unreadableSettings what => "cannot read " ++ what
  | unknownRuntime text => "unknown meta runtime '" ++ text ++ "'"
  | notNatural key text => key ++ " must be a non-negative integer, got '" ++ text ++ "'"
  | workerIsAsynchronous =>
    "the worker meta runtime is async-only; spawn it with spawn_meta_worker and expand with " ++
      "expand_async"
  | runnerFailed detail => "meta subprocess failed: " ++ detail
  | runnerTimeout milliseconds =>
    "meta subprocess failed: timed out after " ++ milliseconds.repr ++ " ms"
  | runnerNotStarted detail => "meta subprocess failed: " ++ detail
  | runnerSilent => "meta subprocess returned empty output"
  | runnerUnreadable complaint => "meta subprocess error: unreadable output: " ++ complaint
  | runnerRefused detail => "meta subprocess error: " ++ detail
  | workerFailed detail => "meta worker error: " ++ detail

/-- Whether a cause only passes on a failure of something underneath it: of the text it read,
    or of the process it meant to start. -/
def isRelayed : Cause → Bool
  | unreadable _ | unreadableSettings _ | runnerNotStarted _ | runnerUnreadable _ => true
  | _ => false

end Cause

/-- A named text that a fault points into. -/
structure SourceText where
  name : String
  text : String
  deriving Repr, DecidableEq, Inhabited

/-- A failure and the place it is blamed on. -/
structure Fault where
  cause : Cause
  span : Option Span := none
  help : Option String := none
  source : Option SourceText := none
  deriving Repr, DecidableEq, Inhabited

/-- A label under a stretch of source text. -/
structure Label where
  text : String
  offset : UInt64
  length : UInt64
  deriving Repr, DecidableEq

namespace Fault

/-- The family of a fault. -/
def kind (fault : Fault) : FaultKind :=
  fault.cause.kind

/-- The wording of a fault, without its heading. -/
def message (fault : Fault) : String :=
  fault.cause.message

/-- A fault as it is shown: heading and wording. -/
def shown (fault : Fault) : String :=
  fault.kind.heading ++ fault.message

/-- Blame a fault on a place, unless it already has one. -/
def locate (fault : Fault) (span : Option Span) : Fault :=
  { fault with span := fault.span.or span }

/-- Attach the text that the fault points into. -/
def withSource (fault : Fault) (source : SourceText) : Fault :=
  { fault with source := some source }

/-- The code under which a family of faults is documented. -/
def code (fault : Fault) : String :=
  "makrell::" ++ fault.kind.name.toLower

/-- The label of a located fault; it covers one place at least. -/
def label? (fault : Fault) : Option Label :=
  fault.span.map fun span => ⟨fault.message, span.start.index, max span.length 1⟩

end Fault

end TreeMacros
