import VideoStats.Text.Blank
import VideoStats.Text.Case

namespace VideoStats.Text

def isKept (c : Char) : Bool :=
  isBlank c || c == '-' || c == '_' || ('0' ≤ c && c ≤ '9') || ('a' ≤ c && c ≤ 'z')
    || ('A' ≤ c && c ≤ 'Z') || ('А' ≤ c && c ≤ 'я')
    || c.toNat == 0x130 || c.toNat == 0x131 || c.toNat == 0x17F || c.toNat == 0x212A
    || (0x1C80 ≤ c.toNat && c.toNat ≤ 0x1C86)

def respell (c : Char) : Char :=
  if c == 'ё' then 'е'
  else if c == '—' || c == '–' then '-'
  else if isKept c then c
  else ' '

/-- The normal form of a question. -/
def normalize (s : String) : String :=
  String.ofList (trim (collapseBlanks ((lower (trim s.toList)).map respell)))

end VideoStats.Text
