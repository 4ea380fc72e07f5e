/-!
# Error status

The status an agent puts into its answer: the codes of RFC 3416 by name, and any
other code as it came.
-/

namespace SnmpManager

/-- What an agent says about a request. -/
inductive ErrorStatus where
  | noError
  | tooBig
  | noSuchName
  | badValue
  | readOnly
  | genErr
  | noAccess
  | wrongType
  | wrongLength
  | wrongEncoding
  | wrongValue
  | noCreation
  | inconsistentValue
  | resourceUnavailable
  | commitFailed
  | undoFailed
  | authorizationError
  | notWritable
  | inconsistentName
  /-- A code without a name. -/
  | unknown (code : Int32)
  deriving DecidableEq, Repr

namespace ErrorStatus

/-- The named statuses in the order of their codes, from zero. -/
def named : List ErrorStatus :=
  [.noError, .tooBig, .noSuchName, .badValue, .readOnly, .genErr, .noAccess, .wrongType,
    .wrongLength, .wrongEncoding, .wrongValue, .noCreation, .inconsistentValue,
    .resourceUnavailable, .commitFailed, .undoFailed, .authorizationError, .notWritable,
    .inconsistentName]

/-- The status for a code. -/
def ofCode (code : Int32) : ErrorStatus :=
  if 0 ≤ code.toInt then named.getD code.toInt.toNat (.unknown code) else .unknown code

/-- The code of a status. -/
def code : ErrorStatus → Int32
  | .noError => 0
  | .tooBig => 1
  | .noSuchName => 2
  | .badValue => 3
  | .readOnly => 4
  | .genErr => 5
  | .noAccess => 6
  | .wrongType => 7
  | .wrongLength => 8
  | .wrongEncoding => 9
  | .wrongValue => 10
  | .noCreation => 11
  | .inconsistentValue => 12
  | .resourceUnavailable => 13
  | .commitFailed => 14
  | .undoFailed => 15
  | .authorizationError => 16
  | .notWritable => 17
  | .inconsistentName => 18
  | .unknown code => code

/-- The status as the standard spells it. -/
def name : ErrorStatus → String
  | .noError => "noError"
  | .tooBig => "tooBig"
  | .noSuchName => "noSuchName"
  | .badValue => "badValue"
  | .readOnly => "readOnly"
  | .genErr => "genErr"
  | .noAccess => "noAccess"
  | .wrongType => "wrongType"
  | .wrongLength => "wrongLength"
  | .wrongEncoding => "wrongEncoding"
  | .wrongValue => "wrongValue"
  | .noCreation => "noCreation"
  | .inconsistentValue => "inconsistentValue"
  | .resourceUnavailable => "resourceUnavailable"
  | .commitFailed => "commitFailed"
  | .undoFailed => "undoFailed"
  | .authorizationError => "authorizationError"
  | .notWritable => "notWritable"
  | .inconsistentName => "inconsistentName"
  | .unknown code => s!"unknown({code})"

/-- The status in words. -/
def reason : ErrorStatus → String
  | .noError => "No error"
  | .tooBig => "Response too big"
  | .noSuchName => "No such object"
  | .badValue => "Bad value"
  | .readOnly => "Read only"
  | .genErr => "Generic error"
  | .noAccess => "Access denied"
  | .wrongType => "Wrong type"
  | .wrongLength => "Wrong length"
  | .wrongEncoding => "Wrong encoding"
  | .wrongValue => "Wrong value"
  | .noCreation => "Can't be created"
  | .inconsistentValue => "Inconsistent value"
  | .resourceUnavailable => "Resource unavailable"
  | .commitFailed => "Commit failed"
  | .undoFailed => "Undo failed"
  | .authorizationError => "Authorization error"
  | .notWritable => "Not writable"
  | .inconsistentName => "Inconsistent name"
  | .unknown code => s!"Unknown error ({code})"

end ErrorStatus

end SnmpManager
