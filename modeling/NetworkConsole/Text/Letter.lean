/-! Two ways of forgetting the case of letters: `lower` changes the ASCII capitals only, `folded`
also maps the two other characters whose simple case folding is an ASCII letter, the long s
(U+017F) and the Kelvin sign (U+212A). -/
namespace NetworkConsole.Text

def lower (text : String) : String := String.ofList (text.toList.map Char.toLower)

def foldLetter (c : Char) : Char :=
  if c = '\u017F' then 's' else if c = '\u212A' then 'k' else c.toLower

def folded (text : String) : String := String.ofList (text.toList.map foldLetter)

end NetworkConsole.Text
