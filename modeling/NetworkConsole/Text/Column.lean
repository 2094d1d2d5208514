/-! Left-aligned columns. A text wider than its column is kept whole. -/
namespace NetworkConsole.Text

def padRight (width : Nat) (text : String) : String :=
  text ++ String.ofList (List.replicate (width - text.length) ' ')

theorem length_padRight (width : Nat) (text : String) :
    (padRight width text).length = max width text.length := by
  simp only [padRight, String.length_append, String.length_ofList, List.length_replicate]
  omega

end NetworkConsole.Text
