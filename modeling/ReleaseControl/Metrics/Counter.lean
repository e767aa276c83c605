import ReleaseControl.Table

/-!
# Counters

A counter counts under the values of its labels. Its samples are in increasing order of those
values, and each has a line in the text that is exposed.

* `Samples.count`, `Samples.increment`: what has been counted, and counting.
* `Counter.text`: the exposed text.
-/

namespace ReleaseControl

abbrev Samples := Table (List String) Nat

namespace Samples

/-- What has been counted under the given values. -/
def count (values : List String) (s : Samples) : Nat := (s.find? values).getD 0

/-- One more counted under the given values. -/
def increment (values : List String) (s : Samples) : Samples := s.insert values (s.count values + 1)

end Samples

/-- What a counter counts, and the names of its labels. -/
structure Counter where
  name : String
  help : String
  labels : List String

namespace Counter

/-- One character of the value of a label. -/
def escapeChar : Char → List Char
  | '\\' => ['\\', '\\']
  | '"' => ['\\', '"']
  | '\n' => ['\\', 'n']
  | c => [c]

def labelText (label value : String) : String :=
  label ++ "=\"" ++ String.ofList (value.toList.flatMap escapeChar) ++ "\""

/-- The name of a sample: that of the counter, with the values of its labels. -/
def sampleName (c : Counter) (values : List String) : String :=
  c.name ++ "\x7b" ++ String.intercalate "," (List.zipWith labelText c.labels values) ++ "\x7d"

/-- The exposed text of a counter; nothing before the first sample. -/
def text (c : Counter) (samples : Samples) : String :=
  if samples.isEmpty then ""
  else
    "# HELP " ++ c.name ++ " " ++ c.help ++ "\n# TYPE " ++ c.name ++ " counter\n"
      ++ String.join (samples.entries.map fun (values, n) =>
        c.sampleName values ++ " " ++ String.ofList (Nat.toDigits 10 n) ++ "\n")

end Counter

end ReleaseControl
