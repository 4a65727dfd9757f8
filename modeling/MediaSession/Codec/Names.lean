import MediaSession.Codec.Basic
import MediaSession.Text.Ascii
import MediaSession.Text.Blank

/-!
# MediaSession.Codec.Names

The names by which settings call for codecs, and lists of such names.

* `Codec.names`: the table; a codec may go by several names, the first being its canonical one
* `Codec.named?`: the codec behind a name, in any case and with blanks around it
* `Codec.ofName`: the same by way of an index of the table
* `NameList.split`: the names in a list
-/

namespace MediaSession
namespace Codec

/-- Names in capitals, each with its codec. -/
def names : List (Codec × String) :=
  [(.tones, "TELEPHONE-EVENT"), (.tones, "AUDIO/TELEPHONE-EVENT"), (.tones, "AVT-TONES"),
    (.tones, "AVT"), (.pcmu, "PCMU"), (.pcmu, "G711U"), (.pcma, "PCMA"), (.pcma, "G711A"),
    (.g729a, "G729"), (.g729a, "G729A"), (.g729ab, "G729B"), (.g729ab, "G729AB"), (.g723, "G723"),
    (.g729aCisco, "G729A-FOR-CISCO-7960"), (.g726at16, "G726-16"), (.g726at24, "G726-24"),
    (.g726at32, "G726-32"), (.g726at40, "G726-40"), (.g722, "G722"), (.ilbc, "ILBC"),
    (.gsm, "GSM"), (.l16, "L16"), (.speex, "SPEEX"), (.speex5, "SPEEX_5"), (.speex15, "SPEEX_15"),
    (.speex24, "SPEEX_24"), (.speexWb, "SPEEX_WB"), (.speexWb5, "SPEEX_WB_5"),
    (.speexWb21, "SPEEX_WB_21"), (.speexWb42, "SPEEX_WB_42"), (.speexUwb, "SPEEX_UWB"),
    (.speexUwb8, "SPEEX_UWB_8"), (.speexUwb22, "SPEEX_UWB_22"), (.speexUwb44, "SPEEX_UWB_44"),
    (.amr, "AMR"), (.amrAligned, "AMR_ALIGNED"), (.amrWb, "AMRWB"),
    (.amrWbAligned, "AMRWB_ALIGNED"), (.eg711u, "EG711U"), (.eg711a, "EG711A"),
    (.ipcmWb, "IPCMWB"), (.isac, "ISAC"), (.isacLc, "ISACLC"), (.vp71Cif, "VP71-CIF"),
    (.vp71Qcif, "VP71-QCIF"), (.vp71Sqcif, "VP71-SQCIF"), (.vp71Qvga, "VP71-QVGA"),
    (.vp71Vga, "VP71-VGA"), (.iyuvCif, "IYUV-CIF"), (.iyuvQcif, "IYUV-QCIF"),
    (.iyuvSqcif, "IYUV-SQCIF"), (.iyuvQvga, "IYUV-QVGA"), (.i420Cif, "I420-CIF"),
    (.i420Qcif, "I420-QCIF"), (.i420Sqcif, "I420-SQCIF"), (.i420Qvga, "I420-QVGA"),
    (.h263Cif, "H263-CIF"), (.h263Qcif, "H263-QCIF"), (.h263Sqcif, "H263-SQCIF"),
    (.h263Qvga, "H263-QVGA"), (.rgb24Cif, "RGB24-CIF"), (.rgb24Qcif, "RGB24-QCIF"),
    (.rgb24Sqcif, "RGB24-SQCIF"), (.rgb24Qvga, "RGB24-QVGA")]

/-- What a name is looked up as: blanks cut off both ends, and ASCII letters in capitals. -/
def nameKey (name : String) : String := String.ofList (Text.upper (Text.trim name.toList))

/-- The codec in the first row for a name. -/
def named? (name : String) : Option Codec :=
  (names.find? fun row => row.2 == nameKey name).map Prod.fst

/-- Names with their codecs, each name once. -/
abbrev NameIndex := List (String × Codec)

/-- A name that has its codec keeps it. -/
def NameIndex.insertIfNew (index : NameIndex) (row : Codec × String) : NameIndex :=
  if (index.lookup row.2).isSome then index else index ++ [(row.2, row.1)]

/-- The rows of the table, taken in one after the other. -/
def nameIndex : NameIndex := names.foldl NameIndex.insertIfNew []

/-- A name that stands for no codec gives `unknown`. -/
def ofName (name : String) : Codec := (nameIndex.lookup (nameKey name)).getD .unknown

def canonicalName? (c : Codec) : Option String :=
  (names.find? fun row => row.1 == c).map Prod.snd

/-! ## The index and the table -/

theorem lookup_insertIfNew (index : NameIndex) (row : Codec × String) (key : String) :
    (index.insertIfNew row).lookup key =
      (index.lookup key).or (if row.2 == key then some row.1 else none) := by
  unfold NameIndex.insertIfNew
  by_cases hkey : row.2 = key
  · subst hkey
    cases hlookup : index.lookup row.2 <;> simp [hlookup, List.lookup_append]
  · have hmiss : (key == row.2) = false := beq_false_of_ne (Ne.symm hkey)
    split <;> simp [hkey, hmiss, List.lookup_append, List.lookup_cons]

theorem lookup_foldl_insertIfNew (rows : List (Codec × String)) (index : NameIndex)
    (key : String) :
    (rows.foldl NameIndex.insertIfNew index).lookup key =
      (index.lookup key).or ((rows.find? fun row => row.2 == key).map Prod.fst) := by
  induction rows generalizing index with
  | nil => simp
  | cons row rows ih =>
    rw [List.foldl_cons, ih, lookup_insertIfNew, Option.or_assoc, List.find?_cons]
    cases row.2 == key <;> simp

theorem lookup_nameIndex (key : String) :
    nameIndex.lookup key = (names.find? fun row => row.2 == key).map Prod.fst := by
  rw [nameIndex, lookup_foldl_insertIfNew]
  rfl

theorem ofName_eq (name : String) : ofName name = (named? name).getD .unknown := by
  rw [ofName, lookup_nameIndex, named?]

theorem exists_row_of_named? {name : String} {c : Codec} (h : named? name = some c) :
    ∃ row ∈ names, row.2 = nameKey name ∧ row.1 = c := by
  unfold named? at h
  obtain ⟨row, hfind, rfl⟩ := Option.map_eq_some_iff.mp h
  have hkey := List.find?_some hfind
  exact ⟨row, List.mem_of_find?_eq_some hfind, by simpa using hkey, rfl⟩

theorem ne_unknown_of_mem_names : ∀ row ∈ names, row.1 ≠ .unknown := by
  decide

/-- No row of the table is for `unknown`, so it tells that there is no row. -/
theorem ofName_eq_unknown_iff {name : String} : ofName name = .unknown ↔ named? name = none := by
  rw [ofName_eq]
  cases hnamed : named? name with
  | none => simp
  | some c =>
    obtain ⟨row, hrow, -, rfl⟩ := exists_row_of_named? hnamed
    simpa using ne_unknown_of_mem_names row hrow

end Codec

namespace NameList

/-- The characters that part names from one another. -/
def separators : List Char := [',', ' ', '\n', '\r', '\t']

def isSeparator (c : Char) : Bool := separators.contains c

/-- What stands before, between and after the separators, empty pieces included. -/
def pieces : List Char → List (List Char)
  | [] => [[]]
  | c :: cs =>
    if isSeparator c then [] :: pieces cs
    else
      match pieces cs with
      | [] => [[c]]
      | p :: ps => (c :: p) :: ps

/-- The names in a list, in order; separators in a row part nothing. -/
def split (list : String) : List String :=
  ((pieces list.toList).filter fun p => !p.isEmpty).map String.ofList

end NameList
end MediaSession
