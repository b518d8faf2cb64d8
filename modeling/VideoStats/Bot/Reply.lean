import VideoStats.Text.Blank
import VideoStats.Text.Digit
import VideoStats.Json.Convert

namespace VideoStats.Bot

open Text

def isCommand (text : String) : Bool :=
  match trimLeft text.toList with
  | '/' :: _ => true
  | _ => false

def isIntegerText (cs : List Char) : Bool :=
  match cs with
  | '-' :: ds => !ds.isEmpty && ds.all isDecimal
  | ds => !ds.isEmpty && ds.all isDecimal

/-- The trimmed text when it is an integer, else `0`. -/
def sanitize (text : String) : String :=
  let v := trim text.toList
  if isIntegerText v then String.ofList v else "0"

def sanitizeValue (v : Json) : Except Json.UseError String := v.strippable.map sanitize

end VideoStats.Bot
