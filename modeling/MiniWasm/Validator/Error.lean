import MiniWasm.Parser.Module

/-!
# Validation errors

The errors that the modelled validation functions report, with their fields in
source order.  `panicked` is not an error of the program: it marks the points
at which an index or an `expect` would panic.
-/

namespace MiniWasm

inductive ValidationError where
  | functionCodeLengthMismatch (functions bodies : Nat)
  | importTypeIndexOutOfBounds (entry typeIndex : Nat)
  | typeIndexOutOfBounds (function typeIndex : Nat)
  | functionExportOutOfBounds (name : String) (functionIndex : Nat)
  | memoryExportOutOfBounds (name : String) (memoryIndex : Nat)
  | tableExportOutOfBounds (name : String) (tableIndex : Nat)
  | globalExportOutOfBounds (name : String) (globalIndex : Nat)
  | invalidTableLimits (table min max : Nat)
  | globalInitializerTypeMismatch (global : Nat) (expected actual : ValueType)
  | globalFunctionRefOutOfBounds (global functionIndex : Nat)
  | startFunctionOutOfBounds (functionIndex : Nat)
  | invalidStartSignature (functionIndex : Nat)
  | elementTableOutOfBounds (segment tableIndex : Nat)
  | elementFunctionOutOfBounds (segment functionIndex : Nat)
  | globalIndexOutOfBounds (function offset globalIndex : Nat)
  | immutableGlobalSet (function offset globalIndex : Nat)
  | tableIndexOutOfBounds (function offset tableIndex : Nat)
  | indirectTypeIndexOutOfBounds (function offset typeIndex : Nat)
  | tailCallResultTypeMismatch (function offset : Nat)
      (expected actual : List ValueType)
  | duplicateExportName (name : String)
  | invalidMemoryLimits (memory min max : Nat)
  | memoryPageLimitExceeded (memory pages limit : Nat)
  | dataMemoryOutOfBounds (segment memoryIndex : Nat)
  | dataCountMismatch (declared actual : Nat)
  | dataCountRequired (function offset : Nat)
  | dataIndexOutOfBounds (function offset dataIndex : Nat)
  | elementIndexOutOfBounds (function offset elementIndex : Nat)
  | memoryInstructionWithoutMemory (function offset : Nat)
  | memoryIndexOutOfBounds (function offset memoryIndex : Nat)
  | invalidMemoryAlignment (function offset alignment maximum : Nat)
  | memoryOffsetOutOfBounds
      (function offset memoryIndex displacement maximum : Nat)
  | localCountOverflow (function : Nat)
  | localIndexOutOfBounds (function offset localIndex : Nat)
  | callTargetOutOfBounds (function offset target : Nat)
  | undeclaredFunctionReference (function offset target : Nat)
  | unsupportedOpcode (function offset opcode : Nat)
  | unsupportedPrefixedOpcode (function offset pfx subopcode : Nat)
  | blockTypeIndexOutOfBounds (function offset typeIndex : Nat)
  | unsupportedBlockType (function offset blockType : Nat)
  | malformedImmediate (function offset : Nat)
  | operandStackUnderflow (function offset : Nat)
  | typeMismatch (function offset : Nat) (expected actual : ValueType)
  | stackHeightMismatch (function offset expected actual : Nat)
  | branchDepthOutOfBounds (function offset depth : Nat)
  | branchTableTypeMismatch (function offset : Nat)
      (expected actual : List ValueType)
  | unexpectedElse (function offset : Nat)
  | duplicateElse (function offset : Nat)
  | missingElseForResult (function offset : Nat)
  | unexpectedEnd (function offset : Nat)
  | missingFunctionEnd (function : Nat)
  | panicked
  deriving DecidableEq, Repr

end MiniWasm
