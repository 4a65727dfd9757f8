import MediaSession.CodecList.Basic

/-!
# MediaSession.CodecList.Text

A codec list written out for people.

* `CodecList.text`: every entry with its place and cost
* `CodecList.summary`: one line
-/

namespace MediaSession
namespace CodecList

def entryText (index : Nat) (f : Format) : String :=
  s!"Codec[{index}] cost={f.cost.level}\n" ++ f.text ++ "\n"

/-- All entries, hidden ones too, each followed by a line feed. -/
def text (l : CodecList) : String :=
  String.join (l.entries.mapIdx entryText)

def summary (l : CodecList) : String :=
  "CodecRegistry \x7b " ++ s!"entries: {l.entries.length}, cpu_limit: {l.limit.title}" ++ " \x7d"

end CodecList
end MediaSession
