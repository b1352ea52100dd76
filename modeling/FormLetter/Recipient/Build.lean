import FormLetter.Calendar
import FormLetter.Recipient.Address
import FormLetter.Recipient.Record

/-!
# Records of recipient lines

The record of a recipient line starts with the built-in variables and then takes the fields of the
line in their order, so that a field replaces a built-in variable of its name and a later field an
earlier one.
-/

namespace FormLetter

/-- What the variables of a recipient depend on besides the line: a `RecordBuilder` with one
reading of its clock. -/
structure Context where
  now : Calendar.Instant
  /-- The address of the page on which recipients unsubscribe. -/
  unsubscribeBase : Text
  deriving DecidableEq, Repr

namespace Context

/-- The page on which recipients unsubscribe if none is configured: `DEFAULT_UNSUBSCRIBE_BASE`. -/
def defaultUnsubscribeBase : Text := "https://example.com/unsubscribe".toList

/-- The variables that a record starts with, in the order in which they are set: the calls of
`insert_derived`. -/
def derivedVariables (context : Context) (address : Text) : List (Text × Text) :=
  [("email".toList, address),
    ("recipient_email".toList, address),
    ("emailname".toList, Recipient.Address.mailbox address),
    ("domain".toList, Recipient.Address.domain address),
    ("full_domain".toList, Recipient.Address.host address),
    ("time".toList, context.now.timeText),
    ("date".toList, context.now.dateText),
    ("day".toList, context.now.weekday),
    ("month".toList, context.now.monthName),
    ("year".toList, context.now.yearText),
    ("firstname".toList, Recipient.Address.firstName address),
    ("lastname".toList, Recipient.Address.lastName address),
    ("company".toList, Recipient.Address.company address),
    ("random_number".toList, Recipient.Address.digits address),
    ("unsubscribe".toList, context.unsubscribeBase ++ "?email=".toList ++ address)]

/-- The record of an address without fields. -/
def addressRecord (context : Context) (address : Text) : Record :=
  (context.derivedVariables address).foldl (fun r v => r.putDerived v.1 v.2)
    { malformed := Recipient.Address.isMalformed address }

/-- The record of an address and its fields. -/
def lineRecord (context : Context) (line : Recipient.Line) : Record :=
  (context.addressRecord line.address).putFields line.fields

/-- The record of a recipient line: `build`. -/
def record (context : Context) (raw : Text) : Record :=
  context.lineRecord (Recipient.Line.read raw)

end Context

end FormLetter
