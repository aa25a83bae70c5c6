import Hostkeeper.Digest
import Hostkeeper.Proofs.Json.Compact

/-! The text that is hashed. Of a well-formed value it is the compact text, and alike values have one. -/
namespace Hostkeeper.Json

section Texts

/-- The texts after the first, each behind a comma. -/
def commaed (texts : List String) : List Char := texts.flatMap fun text => ',' :: text.toList

theorem toList_joinWith (text : String) (texts : List String) :
    (Text.joinWith "," (text :: texts)).toList = text.toList ++ commaed texts := by
  induction texts generalizing text with
  | nil => simp [Text.joinWith,commaed]
  | cons next rest ih =>
    rw [Text.joinWith,String.intercalate_cons_cons,String.toList_append,← Text.joinWith,ih]
    simp [commaed]

theorem toList_quote (s : String) (rest : List Char) : (quote s).toList ++ rest = writeText s rest := by
  simp [quote,compact,write,writeText]

/-- A field of an object as it is written. -/
def fieldText (p : String × String) : String := quote p.1 ++ ":" ++ p.2

theorem toList_fieldText (key text : String) (rest : List Char) :
    (fieldText (key,text)).toList ++ rest = writeText key (':' :: (text.toList ++ rest)) := by
  rw [← toList_quote]
  simp [fieldText]

theorem map_fst_canonicalFields (fields : List (String × Json)) :
    (canonicalFields fields).map (·.1) = fields.map (·.1) := by
  induction fields with
  | nil => rfl
  | cons field fields ih => simpa [canonicalFields] using ih

/-- Fields in key order are hashed as they stand. -/
theorem canonical_object {fields : List (String × Json)} (sorted : fields.Pairwise (·.1 < ·.1)) :
    canonical (.object fields) = "\x7b" ++ Text.joinWith "," ((canonicalFields fields).map fieldText) ++ "\x7d" := by
  have keys : ((canonicalFields fields).map (·.1)).Pairwise (· < ·) := by
    rw [map_fst_canonicalFields]
    exact List.pairwise_map.mpr sorted
  rw [canonical,KeyMap.entries_ofList (List.pairwise_map.mp keys)]
  rfl

mutual

theorem toList_canonical :
    ∀ {value : Json}, value.WellFormed → ∀ rest, value.canonical.toList ++ rest = value.write rest
  | .null, _, _ => by simp [canonical,compact,write]
  | .bool true, _, _ => by simp [canonical,compact,write]
  | .bool false, _, _ => by simp [canonical,compact,write]
  | .int n, _, _ => by simp [canonical,compact,write,writeInt]
  | .real x, _, _ => by simp [canonical,compact,write,writeReal]
  | .text s, _, rest => by rw [canonical,toList_quote,write]
  | .list [], _, _ => rfl
  | .list (item :: items), formed, rest => by
    rw [write,← toList_canonical formed.1,← toList_canonicalItems formed.2]
    simp [canonical,canonicalItems,toList_joinWith]
  | .object [], _, _ => rfl
  | .object ((key,value) :: fields), formed, rest => by
    rw [write,← toList_canonical formed.2.1,← toList_canonicalFields formed.2.2,← toList_fieldText,
      canonical_object formed.1]
    simp [canonicalFields,toList_joinWith]

theorem toList_canonicalItems : ∀ {items : List Json}, WellFormedItems items → ∀ rest,
    commaed (canonicalItems items) ++ ']' :: rest = writeItems items rest
  | [], _, _ => rfl
  | item :: items, formed, rest => by
    rw [writeItems,← toList_canonical formed.1,← toList_canonicalItems formed.2]
    simp [canonicalItems,commaed]

theorem toList_canonicalFields : ∀ {fields : List (String × Json)}, WellFormedFields fields → ∀ rest,
    commaed ((canonicalFields fields).map fieldText) ++ '\x7d' :: rest = writeFields fields rest
  | [], _, _ => rfl
  | (key,value) :: fields, formed, rest => by
    rw [writeFields,← toList_canonical formed.1,← toList_canonicalFields formed.2,← toList_fieldText]
    simp [canonicalFields,commaed]

end

theorem canonical_eq_compact {value : Json} (formed : value.WellFormed) : value.canonical = value.compact := by
  rw [← String.toList_inj,compact,String.toList_ofList,← toList_canonical formed,List.append_nil]

end Texts

section Alike

mutual

theorem canonical_of_alike : ∀ {a b : Json}, Alike a b → a.canonical = b.canonical
  | .null, .null, _ => rfl
  | .bool _, .bool _, same => by rw [show _ = _ from same]
  | .text _, .text _, same => by rw [show _ = _ from same]
  | .list as, .list bs, alike => by rw [canonical,canonical,canonicalItems_of_alike alike]
  | .object as, .object bs, alike => by rw [canonical,canonical,canonicalFields_of_alike alike]
  | .int _, .int _, alike | .int _, .real _, alike | .real _, .int _, alike | .real _, .real _, alike =>
    (compact_eq_iff _ _).mpr alike

theorem canonicalItems_of_alike : ∀ {as bs : List Json}, AlikeItems as bs → canonicalItems as = canonicalItems bs
  | [], [], _ => rfl
  | _ :: _, _ :: _, alike => by
    rw [canonicalItems,canonicalItems,canonical_of_alike alike.1,canonicalItems_of_alike alike.2]

theorem canonicalFields_of_alike : ∀ {as bs : List (String × Json)}, AlikeFields as bs →
    canonicalFields as = canonicalFields bs
  | [], [], _ => rfl
  | (_,_) :: _, (_,_) :: _, ⟨key,head,tail⟩ => by
    rw [canonicalFields,canonicalFields,key,canonical_of_alike head,canonicalFields_of_alike tail]

end

theorem digest_of_compact {a b : Json} (texts : a.compact = b.compact) :
    ContentDigest.ofJson a = ContentDigest.ofJson b := by
  rw [ContentDigest.ofJson,ContentDigest.ofJson,canonical_of_alike ((compact_eq_iff a b).mp texts)]

end Alike

end Hostkeeper.Json
