import FormLetter.Metrics

/-!
# The exposition of metrics

The text in which metrics are fetched: the families that are registered, one after the other in
the order of their names, each with a line of help, a line with its type, and a line for every
value. A family without values is left out.
-/

namespace FormLetter.Metrics

/-- A line. -/
def line (parts : List Text) : Text := parts.flatten ++ ['\n']

/-- A family: its lines of help and type, and its values. -/
def family (name help kind : Text) (values : List Text) : Text :=
  if values.isEmpty then []
  else
    line ["# HELP ".toList, name, " ".toList, help] ++
      line ["# TYPE ".toList, name, " ".toList, kind] ++ values.flatten

/-- A character of the value of a label. -/
def labelChar (c : Char) : Text :=
  if c = '\\' then ['\\', '\\']
  else if c = '"' then ['\\', '"']
  else if c = '\n' then ['\\', 'n']
  else [c]

/-- A name with one label. -/
def labelled (name label value : Text) : Text :=
  name ++ "\x7b".toList ++ label ++ "=\"".toList ++ value.flatMap labelChar ++ "\"\x7d".toList

/-- A line with the value of a sample. -/
def sample (name : Text) (value : Nat) : Text := line [name, " ".toList, Text.ofNat value]

/-- A family with a single counter. -/
def counter (name help : Text) (value : Nat) : Text :=
  family name help "counter".toList [sample name value]

/-- A family with a counter for every value of a label. -/
def labelledCounters (name help label : Text) (values : List (Text × Nat)) : Text :=
  family name help "counter".toList
    (values.map fun v => sample (labelled name label v.1) v.2)

/-- A family with a histogram. -/
def histogram (name help : Text) (h : Histogram) : Text :=
  let bucket := name ++ "_bucket".toList
  family name help "histogram".toList
    ((h.buckets.map fun b => sample (labelled bucket "le".toList (Text.ofNat b.1)) b.2) ++
      [sample (labelled bucket "le".toList "+Inf".toList) h.count,
        sample (name ++ "_sum".toList) h.sum,
        sample (name ++ "_count".toList) h.count])

/-- The part of the exposition with a family. -/
def familyText (m : Metrics) (f : Family) : Text :=
  match f with
  | .batchSize => histogram f.name "Number of recipients per batch merge".toList m.batchSizes
  | .malformedRecipients =>
    counter f.name "Total recipient lines without a valid email address".toList
      m.malformedRecipients
  | .messagesResolved =>
    labelledCounters f.name "Total templates resolved".toList "endpoint".toList m.messagesResolved
  | .recordsBuilt => counter f.name "Total recipient records built".toList m.recordsBuilt
  | .unknownPlaceholders =>
    counter f.name "Total distinct unknown variables encountered per resolved message".toList
      m.unknownPlaceholders

/-- The exposition of the metrics: `encode_metrics`, which gathers what is registered. -/
def exposition (m : Metrics) : Text := m.registered.flatMap m.familyText

end FormLetter.Metrics
