import MediaSession.CodecList.Basic

/-!
# MediaSession.CodecList.Query

What a session sees of its codec list: the entries within the CPU limit, in order.

* `visible`: all of them; the other queries select from it
* `byCodec?`: the one query that looks at the whole list first
-/

namespace MediaSession
namespace CodecList

def shows (l : CodecList) (f : Format) : Bool := f.cost ≤ l.limit

def visible (l : CodecList) : List Format := l.entries.filter l.shows

def count (l : CodecList) : Nat := l.entries.countP l.shows

def forType (l : CodecList) (type : String) : List Format :=
  l.entries.filter fun f => l.shows f && f.isOfType type

def countForType (l : CodecList) (type : String) : Nat :=
  l.entries.countP fun f => l.shows f && f.isOfType type

def forMime (l : CodecList) (type subtype : String) : List Format :=
  l.entries.filter fun f => l.shows f && f.hasMime type subtype

/-- The first entry of a codec, unless that entry is hidden; a later one does not stand in. -/
def byCodec? (l : CodecList) (c : Codec) : Option Format :=
  (l.entries.find? fun f => f.codec == c).filter l.shows

def byPayloadType? (l : CodecList) (pt : Int32) : Option Format :=
  l.entries.find? fun f => f.payloadType == pt && l.shows f

def byMime? (l : CodecList) (type subtype : String) : Option Format :=
  l.entries.find? fun f => f.hasMime type subtype && l.shows f

theorem count_eq_length (l : CodecList) : l.count = l.visible.length :=
  List.countP_eq_length_filter

theorem countForType_eq_length (l : CodecList) (type : String) :
    l.countForType type = (l.forType type).length :=
  List.countP_eq_length_filter

end CodecList
end MediaSession
