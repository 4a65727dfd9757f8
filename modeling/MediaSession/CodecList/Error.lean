import MediaSession.Codec.Basic

/-!
# MediaSession.CodecList.Error

What can go wrong when a codec list is set up. A codec that is not found is no error.

* `ListError`: the causes
* `ListError.kind`, `ListError.message`: the word and the sentence for each
-/

namespace MediaSession

/-- What is wrong with the settings of a codec list. -/
inductive ListFault
  | unknownName (name : String)
  | noNames
  | other (details : String)
deriving DecidableEq

def ListFault.message : ListFault → String
  | .unknownName name => s!"unknown codec name '{name}'"
  | .noNames => "codec list is empty"
  | .other details => details

inductive ListError
  | invalidSettings (fault : ListFault)
  | unsupportedCodec (codec : Codec)
  | invalidPayloadType (payloadType : Int32)
  /-- Payload types ran out while so many codecs still had none. -/
  | payloadTypesExhausted (needed : Nat)
deriving DecidableEq

namespace ListError

def kind : ListError → String
  | .invalidSettings _ => "InvalidConfig"
  | .unsupportedCodec _ => "UnsupportedCodec"
  | .invalidPayloadType _ => "InvalidPayloadType"
  | .payloadTypesExhausted _ => "PayloadTypesExhausted"

def message : ListError → String
  | .invalidSettings fault => s!"Invalid codec registry configuration: {fault.message}"
  | .unsupportedCodec codec => s!"Unsupported codec type: {codec.name}"
  | .invalidPayloadType pt =>
    s!"Invalid payload type: {pt.toInt} (valid range 0-127, or -1 for unassigned)"
  | .payloadTypesExhausted needed =>
    s!"Dynamic payload types exhausted: {needed} more codec(s) could not be bound"

end ListError
end MediaSession
