import NetworkConsole.Text.Letter

/-! Keyword types: finite types whose members each have one lowercase spelling. Reading ignores the
case of ASCII letters. -/
namespace NetworkConsole

class Keyword (α : Type) where
  /-- The members in the order in which they are offered. -/
  all : List α
  spelling : α → String

namespace Keyword
variable (α : Type) [Keyword α]

def options : List String := (all : List α).map spelling

variable {α}

/-- The member that a text spells. -/
def ofString? (text : String) : Option α :=
  all.find? fun keyword => spelling keyword == Text.lower text

end Keyword
end NetworkConsole
