import Rulebook.Json.Reader
import Rulebook.Json.Writer
import Rulebook.Proofs.Numeric.Scanning

/-! A JSON text with a line for every member reads as the value it was written
for. The reader is followed over the text: each part of it leads the reader from
one state to the next, whatever comes after that part. -/
namespace Rulebook
open Numeric

namespace Json

/-- What the reader makes of a text when it starts in some state. -/
def readFrom (state : ReadState) (chars : List Char) : Option Json :=
  (items? chars).bind state.run

theorem read?_eq (text : String) : read? text = readFrom (.value []) text.toList := rfl

variable {state next : ReadState} {chars rest : List Char}

theorem readFrom_nil (whole : Json) : readFrom (.complete whole []) [] = some whole := by
  simp [readFrom, items?, ReadState.run]

theorem readFrom_blank {blank : Char} (isBlank : isBlank blank = true) :
    readFrom state (blank :: rest) = readFrom state rest := by
  simp [readFrom, items?, isBlank]

/-- The reader takes one item. -/
theorem readFrom_item {first : Char} {item : JsonItem} {taken : Nat}
    (visible : isBlank first = false) (scanned : item? first rest = some (item, taken))
    (step : state.step? item = some next) :
    readFrom state (first :: rest) = readFrom next (rest.drop taken) := by
  rw [readFrom, items?, if_neg (by simp [visible]), scanned, readFrom]
  dsimp only
  cases items? (rest.drop taken) with
  | none => rfl
  | some items => simp [ReadState.run, step]

theorem readFrom_sign {sign : Char} {item : JsonItem} (visible : isBlank sign = false)
    (scanned : item? sign rest = some (item, 0)) (step : state.step? item = some next) :
    readFrom state (sign :: rest) = readFrom next rest :=
  readFrom_item visible scanned step

theorem readFrom_lineBreak (level : Nat) :
    readFrom state (lineBreak level ++ rest) = readFrom state rest := by
  rw [lineBreak, List.cons_append, readFrom_blank rfl]
  induction 2 * level with
  | zero => rfl
  | succ count ih => rw [List.replicate_succ, List.cons_append, readFrom_blank rfl, ih]

theorem hexUnit?_control :
    ∀ code < 32,
      hexUnit? '0' '0' (Nat.digitChar (code / 16)) (Nat.digitChar (code % 16)) = some code := by
  decide

theorem scanString_escape {letter meant : Char} (escape : escape? letter = some meant)
    (letter_ne : letter ≠ 'u') :
    scanString ('\\' :: letter :: rest) =
      (scanString rest).map fun (units, after) => (meant.toNat :: units, after) := by
  rw [scanString, escape]
  · cases scanString rest <;> rfl
  · intro a b c d more unit _
    exact letter_ne unit

theorem scanString_plain {char : Char} (visible : ¬char < ' ') (no_quote : char ≠ '"')
    (no_backslash : char ≠ '\\') :
    scanString (char :: rest) =
      (scanString rest).map fun (units, after) => (char.toNat :: units, after) := by
  rw [scanString, if_neg (by simp [visible, no_backslash])]
  · cases scanString rest <;> rfl
  · exact no_quote
  · intro a b c d more backslash
    exact absurd backslash no_backslash
  · intro letter more backslash
    exact absurd backslash no_backslash

theorem scanString_writtenChar (char : Char) :
    scanString (writtenChar char ++ rest) =
      (scanString rest).map fun (units, after) => (char.toNat :: units, after) := by
  unfold writtenChar
  split
  · exact scanString_escape rfl (by decide)
  · exact scanString_escape rfl (by decide)
  · exact scanString_escape rfl (by decide)
  · exact scanString_escape rfl (by decide)
  · exact scanString_escape rfl (by decide)
  · exact scanString_escape rfl (by decide)
  · exact scanString_escape rfl (by decide)
  · rename_i no_quote no_backslash _ _ _ _ _
    split
    · rename_i control
      simp only [List.cons_append, List.nil_append, scanString, hexUnit?_control char.toNat control]
      cases scanString rest <;> rfl
    · rename_i visible
      exact scanString_plain visible no_quote no_backslash

theorem scanString_written (text : List Char) :
    scanString (text.flatMap writtenChar ++ '"' :: rest) = some (text.map Char.toNat, rest) := by
  induction text with
  | nil => simp [scanString]
  | cons char text ih =>
    rw [List.flatMap_cons, List.append_assoc, scanString_writtenChar, ih]
    rfl

/-- Characters are no surrogates. -/
theorem not_surrogate (char : Char) :
    isHighSurrogate char.toNat = false ∧ isLowSurrogate char.toNat = false := by
  have valid : char.toNat.isValidChar := char.valid
  simp only [Nat.isValidChar] at valid
  simp only [isHighSurrogate, isLowSurrogate, Bool.and_eq_false_iff, decide_eq_false_iff_not]
  omega

theorem joinUnits_chars (text : List Char) : joinUnits (text.map Char.toNat) = some text := by
  induction text with
  | nil => rfl
  | cons first text ih =>
    cases text with
    | nil => simp [joinUnits, not_surrogate]
    | cons second text =>
      rw [List.map_cons, List.map_cons, joinUnits, ← List.map_cons, ih]
      simp [not_surrogate]

theorem readFrom_writtenString (text : String)
    (step : state.step? (.scalar (.text (some text))) = some next) :
    readFrom state (writtenString text ++ rest) = readFrom next rest := by
  let body := text.toList.flatMap writtenChar ++ ['"']
  have scanned : scanString (body ++ rest) = some (text.toList.map Char.toNat, rest) := by
    rw [List.append_assoc]
    exact scanString_written text.toList
  have taken : item? '"' (body ++ rest) = some (.scalar (.text (some text)), body.length) := by
    simp [item?, scanned, joinUnits_chars]
  rw [writtenString, List.cons_append, readFrom_item rfl taken step, List.drop_left]

theorem scanNumeral?_eq {numeral : Numeral} (formed : numeral.WellFormed)
    (stops : Numeral.Stops rest) : scanNumeral? (numeral.text ++ rest) = some numeral := by
  have nonempty := formed.whole_ne_nil
  have alone := formed.zero_alone
  simp only [scanNumeral?, formed.spelled.scan_eq stops]
  split
  · contradiction
  · rename_i next more written
    rw [written] at alone
    simp at alone
  · rfl

/-- Only a number begins with a digit. -/
theorem item?_digit {first : Char} (digit : isDigit first = true) :
    item? first rest = (scanNumeral? (first :: rest)).map fun numeral =>
      (.scalar (.number false numeral), numeral.text.length - 1) := by
  unfold item?
  split <;> first | rfl | exact absurd digit (by decide)

theorem isBlank_digit {char : Char} (digit : isDigit char = true) : isBlank char = false := by
  by_contra blank
  simp only [isBlank, Bool.not_eq_false, Bool.or_eq_true, beq_iff_eq] at blank
  obtain ((rfl | rfl) | rfl) | rfl := blank <;> exact absurd digit (by decide)

theorem readFrom_number (negative : Bool) {numeral : Numeral} (formed : numeral.WellFormed)
    (stops : Numeral.Stops rest)
    (step : state.step? (.scalar (.number negative numeral)) = some next) :
    readFrom state (writtenScalar (.number negative numeral) ++ rest) = readFrom next rest := by
  have scanned := scanNumeral?_eq formed stops
  cases negative with
  | true =>
    have taken : item? '-' (numeral.text ++ rest) =
        some (.scalar (.number true numeral), numeral.text.length) := by
      simp [item?, scanned]
    change readFrom state ('-' :: (numeral.text ++ rest)) = _
    rw [readFrom_item rfl taken step, List.drop_left]
  | false =>
    obtain ⟨first, more, whole⟩ := List.exists_cons_of_ne_nil formed.whole_ne_nil
    have digit : isDigit first = true := formed.whole_digits first (by simp [whole])
    obtain ⟨behind, text⟩ : ∃ behind, numeral.text = first :: behind :=
      ⟨more ++ numeral.fraction ++ numeral.exponent, by simp [Numeral.text, whole]⟩
    rw [text, List.cons_append] at scanned
    have taken : item? first (behind ++ rest) =
        some (.scalar (.number false numeral), behind.length) := by
      simp [item?_digit digit, scanned, text]
    change readFrom state (numeral.text ++ rest) = _
    rw [text, List.cons_append, readFrom_item (isBlank_digit digit) taken step, List.drop_left]

/-- A value that can be written: its strings are texts and its numbers are
written as numbers are. -/
inductive Writable : Json → Prop where
  | null : Writable null
  | boolean (value : Bool) : Writable (boolean value)
  | number (negative : Bool) {numeral : Numeral} (formed : numeral.WellFormed) :
    Writable (number negative numeral)
  | text (value : String) : Writable (.ofString value)
  | array {items : List Json} (all : ∀ item ∈ items, Writable item) : Writable (array items)
  | object {fields : List (String × Json)} (all : ∀ field ∈ fields, Writable field.2) :
    Writable (.ofFields fields)

/-- A value is due in some state, to be put where something is pending. -/
def Awaits (state : ReadState) (pending : List Open) : Prop :=
  ∀ item next, ReadState.begin? pending item = some next → state.step? item = some next

theorem awaits_value (pending : List Open) : Awaits (.value pending) pending :=
  fun _ _ begun => begun

theorem awaits_arrayStart (pending : List Open) :
    Awaits (.arrayStart pending) (.array [] :: pending) := by
  intro item next begun
  cases item <;> simp_all [ReadState.begin?, ReadState.step?]

/-- The text of a value leads from any state in which a value is due to the one
in which it is complete. -/
def ReadsBack (json : Json) : Prop :=
  ∀ level state pending rest, Awaits state pending → Numeral.Stops rest →
    readFrom state (prettyChars level json ++ rest) = readFrom (.complete json pending) rest

theorem stops_prettyItems (level : Nat) (items : List Json) :
    Numeral.Stops (prettyItems level items ++ rest) := by
  cases items <;> simp [prettyItems, lineBreak, Numeral.Stops] <;> decide

theorem stops_prettyFields (level : Nat) (fields : List (JsonText × Json)) :
    Numeral.Stops (prettyFields level fields ++ rest) := by
  cases fields <;> simp [prettyFields, lineBreak, Numeral.Stops] <;> decide

theorem readFrom_prettyItems {items : List Json} (all : ∀ item ∈ items, ReadsBack item)
    (level : Nat) (last : Json) (before : List Json) (pending : List Open) :
    readFrom (.complete last (.array before :: pending)) (prettyItems level items ++ rest) =
      readFrom (.complete (.array (before ++ last :: items)) pending) rest := by
  induction items generalizing last before with
  | nil =>
    rw [prettyItems, List.append_assoc, readFrom_lineBreak, List.singleton_append,
      readFrom_sign rfl rfl rfl]
  | cons item items ih =>
    have first := all item (List.mem_cons_self ..)
    rw [prettyItems, List.cons_append, readFrom_sign rfl rfl rfl,
      List.append_assoc, List.append_assoc, readFrom_lineBreak,
      first _ _ _ _ (awaits_value _) (stops_prettyItems level items),
      ih fun item mem => all item (List.mem_cons_of_mem _ mem)]
    simp

/-- A key with its colon leads to where its value is due. -/
theorem readFrom_key (key : String) (fields : List (JsonText × Json)) (pending : List Open)
    (step : state.step? (.scalar (.text (some key))) = some (.colon fields (some key) pending)) :
    readFrom state (writtenText (some key) ++ ':' :: ' ' :: rest) =
      readFrom (.value (.object fields (some key) :: pending)) rest := by
  change readFrom state (writtenString key ++ _) = _
  rw [readFrom_writtenString key step, readFrom_sign rfl rfl rfl, readFrom_blank rfl]

theorem readFrom_prettyFields {fields : List (String × Json)}
    (all : ∀ field ∈ fields, ReadsBack field.2) (level : Nat) (last : Json)
    (before : List (JsonText × Json)) (name : JsonText) (pending : List Open) :
    readFrom (.complete last (.object before name :: pending))
        (prettyFields level (fields.map fun (key, value) => (some key, value)) ++ rest) =
      readFrom (.complete (.object (before ++ (name, last) ::
        fields.map fun (key, value) => (some key, value))) pending) rest := by
  induction fields generalizing last before name with
  | nil =>
    rw [List.map_nil, prettyFields, List.append_assoc, readFrom_lineBreak, List.singleton_append,
      readFrom_sign rfl rfl rfl]
  | cons field fields ih =>
    obtain ⟨key, value⟩ := field
    have first : ReadsBack value := all (key, value) (List.mem_cons_self ..)
    simp only [List.map_cons, prettyFields, List.cons_append, List.append_assoc]
    rw [readFrom_sign rfl rfl rfl, readFrom_lineBreak, readFrom_key key _ _ rfl,
      first _ _ _ _ (awaits_value _) (stops_prettyFields level _),
      ih fun field mem => all field (List.mem_cons_of_mem _ mem)]
    simp

theorem readsBack_null : ReadsBack null := by
  intro level state pending rest awaits stops
  have taken : item? 'n' ('u' :: 'l' :: 'l' :: rest) = some (.scalar .null, 3) := by simp [item?]
  exact readFrom_item rfl taken (awaits _ _ rfl)

theorem readsBack_boolean (value : Bool) : ReadsBack (boolean value) := by
  intro level state pending rest awaits stops
  cases value with
  | true =>
    have taken : item? 't' ('r' :: 'u' :: 'e' :: rest) = some (.scalar (.boolean true), 3) := by
      simp [item?]
    exact readFrom_item rfl taken (awaits _ _ rfl)
  | false =>
    have taken : item? 'f' ('a' :: 'l' :: 's' :: 'e' :: rest) =
        some (.scalar (.boolean false), 4) := by
      simp [item?]
    exact readFrom_item rfl taken (awaits _ _ rfl)

theorem readsBack_array {items : List Json} (all : ∀ item ∈ items, ReadsBack item) :
    ReadsBack (array items) := by
  intro level state pending rest awaits stops
  cases items with
  | nil =>
    change readFrom state ('[' :: ']' :: rest) = _
    rw [readFrom_sign rfl rfl (awaits _ _ rfl), readFrom_sign rfl rfl rfl]
  | cons first items =>
    have head := all first (List.mem_cons_self ..)
    have tail : ∀ item ∈ items, ReadsBack item := fun item mem =>
      all item (List.mem_cons_of_mem _ mem)
    rw [prettyChars, List.cons_append, readFrom_sign rfl rfl (awaits _ _ rfl),
      List.append_assoc, List.append_assoc, readFrom_lineBreak,
      head _ _ _ _ (awaits_arrayStart _) (stops_prettyItems level items),
      readFrom_prettyItems tail]
    rfl

theorem readsBack_object {fields : List (String × Json)}
    (all : ∀ field ∈ fields, ReadsBack field.2) : ReadsBack (.ofFields fields) := by
  intro level state pending rest awaits stops
  cases fields with
  | nil =>
    change readFrom state ('{' :: '}' :: rest) = _
    rw [readFrom_sign rfl rfl (awaits _ _ rfl), readFrom_sign rfl rfl rfl]
    rfl
  | cons field fields =>
    obtain ⟨key, value⟩ := field
    have head : ReadsBack value := all (key, value) (List.mem_cons_self ..)
    have tail : ∀ field ∈ fields, ReadsBack field.2 := fun field mem =>
      all field (List.mem_cons_of_mem _ mem)
    simp only [ofFields, List.map_cons, prettyChars, List.cons_append, List.append_assoc]
    rw [readFrom_sign rfl rfl (awaits _ _ rfl), readFrom_lineBreak,
      readFrom_key key _ _ rfl, head _ _ _ _ (awaits_value _) (stops_prettyFields level _),
      readFrom_prettyFields tail]
    rfl

theorem Writable.readsBack {json : Json} (writable : Writable json) : ReadsBack json := by
  induction writable with
  | null => exact readsBack_null
  | boolean value => exact readsBack_boolean value
  | number negative formed =>
    intro level state pending rest awaits stops
    exact readFrom_number negative formed stops (awaits _ _ rfl)
  | text value =>
    intro level state pending rest awaits stops
    exact readFrom_writtenString value (awaits _ _ rfl)
  | array _ ih => exact readsBack_array ih
  | object _ ih => exact readsBack_object ih

/-- A value reads back from its text. -/
theorem read?_pretty {json : Json} (writable : Writable json) : read? json.pretty = some json := by
  have stops : Numeral.Stops [] := by simp [Numeral.Stops]
  have read := writable.readsBack 0 _ _ [] (awaits_value []) stops
  rw [List.append_nil, readFrom_nil] at read
  rw [read?_eq, pretty, String.toList_ofList, read]

end Json

end Rulebook
