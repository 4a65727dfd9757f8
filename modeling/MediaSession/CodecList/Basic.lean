import MediaSession.Codec.Canonical
import MediaSession.Codec.Names
import MediaSession.CodecList.Error

/-!
# MediaSession.CodecList.Basic

The codec list of a session: descriptions in order of preference, and the highest CPU cost that is
shown. A costlier entry stays in the list and is only hidden from queries.

* `CodecList`: the list and its limit
* `add`, `addAll`, `addTypes`, `addList`: ways to append
* `adopt`, `adoptAll`: payload types taken over from remote descriptions
-/

namespace MediaSession

structure CodecList where
  entries : List Format := []
  limit : CpuCost := default
deriving DecidableEq

namespace CodecList

def empty : CodecList := {}

/--
Why an entry may not be added: a codec without a description in the catalogue, or a payload type
out of range. The codec is looked at first.
-/
def refusal? (f : Format) : Option ListError :=
  if !f.codec.isOffered then some (.unsupportedCodec f.codec)
  else if !Payload.isValid f.payloadType then some (.invalidPayloadType f.payloadType)
  else none

/-- Appends one entry; the same codec may be there already. -/
def add (l : CodecList) (f : Format) : Except ListError Unit × CodecList :=
  match refusal? f with
  | some e => (.error e, l)
  | none => (.ok (), { l with entries := l.entries ++ [f] })

/-- Appends entries, all of which are looked at before the first is appended. -/
def addAll (l : CodecList) (fs : List Format) : Except ListError Unit × CodecList :=
  match fs.findSome? refusal? with
  | some e => (.error e, l)
  | none => (.ok (), { l with entries := l.entries ++ fs })

/-- A new list, which comes to nothing if an entry is refused. -/
def ofFormats (fs : List Format) : Except ListError CodecList :=
  match empty.addAll fs with
  | (.error e, _) => .error e
  | (.ok (), l) => .ok l

/-- Appends the canonical descriptions of codecs, passing over those that have none. -/
def addTypes (l : CodecList) (cs : List Codec) : CodecList :=
  { l with entries := l.entries ++ cs.filterMap Codec.canonical? }

def rejected (cs : List Codec) : Nat := cs.countP fun c => !c.isOffered

/-- The codecs a list of names calls for; names that stand for none are passed over. -/
def listed (list : String) : List Codec := (NameList.split list).filterMap Codec.named?

def addList (l : CodecList) (list : String) : CodecList := l.addTypes (listed list)

def clear (l : CodecList) : CodecList := { l with entries := [] }

def setLimit (l : CodecList) (limit : CpuCost) : CodecList := { l with limit }

/-! ## Remote payload types -/

/-- An entry with the definition of a remote description takes the payload type of it. -/
def adoptInto (remote f : Format) : Format :=
  if f.sameDefinition remote then f.withPayloadType remote.payloadType else f

def adopt (l : CodecList) (remote : Format) : CodecList :=
  { l with entries := l.entries.map (adoptInto remote) }

def adoptAll (l : CodecList) (remotes : List Format) : CodecList := remotes.foldl adopt l

end CodecList
end MediaSession
