import Reckon.Cli.Calculation
/-!
# Command line — records

A calculation as a JSON object on one line. A number that is not finite has
no JSON form and is written as null.
-/

namespace Reckon

namespace Cli

/-- The escapes of one letter in a JSON text. -/
def jsonEscapes : List (Char × Char) :=
  [('"', '"'), ('\\', '\\'), ('\n', 'n'), ('\r', 'r'), ('\t', 't'), ('\x08', 'b'), ('\x0c', 'f')]

/-- One character of a JSON text. -/
def jsonChar (c : Char) : List Char :=
  match jsonEscapes.lookup c with
  | some letter => ['\\', letter]
  | none => if c.toNat < 0x20 then '\\' :: 'u' :: Text.hex 4 c.toNat else [c]

/-- A JSON text in its quotes. -/
def jsonText (s : String) : String :=
  String.ofList ('"' :: s.toList.flatMap jsonChar ++ ['"'])

/-- A JSON number. -/
def jsonNumber (v : Float) : String :=
  if v.isFinite then Number.render .compact Number.shortest v else "null"

/-- A JSON object of fields that are written already. -/
def jsonObject (fields : List (String × String)) : String :=
  let members := fields.map fun (name, value) => jsonText name ++ ":" ++ value
  "\x7b" ++ ",".intercalate members ++ "\x7d"

/-- A parameter in JSON. -/
def Parameter.json : Parameter → String
  | number v => jsonNumber v
  | word s => jsonText s

/-- **A calculation in JSON.** -/
def Calculation.json (c : Calculation) : String :=
  jsonObject
    [("operation", jsonText c.operation.word), ("expression", jsonText c.expression),
      ("result", jsonNumber c.result), ("x", (c.location.map jsonNumber).getD "null"),
      ("parameters", jsonObject (c.parameters.map fun (name, p) => (name, p.json)))]

end Cli

end Reckon
