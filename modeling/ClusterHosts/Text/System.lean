import ClusterHosts.Text.Quoted

/-! # Texts of the system

What the system calls by a name, such as a file, and what it hands to a program, such as the words
of a command line, is a row of bytes. Mostly it is the UTF-8 of a text, but it need not be. Bytes
that are not are shown with a replacement character for each run of bytes that begins a character
and does not end it, so that different names can look alike (`SystemText.shown_ofText`,
`SystemText.isText_or_exists_broken`).
-/

namespace ClusterHosts

/-- The bytes of a text in UTF-8. -/
def Text.utf8 (text : String) : List UInt8 := text.toUTF8.data.toList

/-- A text as the system has it. -/
structure SystemText where
  bytes : List UInt8
  deriving DecidableEq, Inhabited

/-- The bytes of a text are those of its characters. -/
theorem Text.utf8_eq_flatMap (text : String) :
    utf8 text = text.toList.flatMap String.utf8EncodeChar := by
  rw [utf8, String.toUTF8_eq_toByteArray, ← String.utf8Encode_toList, List.utf8Encode,
    List.toList_data_toByteArray]

namespace SystemText

/-- A text, given to the system. -/
def ofText (text : String) : SystemText := ⟨Text.utf8 text⟩

/-- The bytes of texts behind each other. -/
theorem bytes_ofText_append (first second : String) :
    (ofText (first ++ second)).bytes = (ofText first).bytes ++ (ofText second).bytes := by
  rw [ofText, ofText, ofText, Text.utf8_eq_flatMap, Text.utf8_eq_flatMap, Text.utf8_eq_flatMap,
    String.toList_append, List.flatMap_append]

/-- The text that the bytes are the UTF-8 of, if they are. -/
def text? (raw : SystemText) : Option String := String.fromUTF8? ⟨raw.bytes.toArray⟩

/-- Whether the bytes are the UTF-8 of a text. -/
def IsText (raw : SystemText) : Prop := ∃ text, raw = ofText text

/-- Whether there are no bytes. -/
def isEmpty (raw : SystemText) : Bool := raw.bytes.isEmpty

/-- How many bytes there are. -/
def length (raw : SystemText) : Nat := raw.bytes.length

/-! ### Pieces -/

/-- A piece of bytes that are read as UTF-8. -/
inductive Piece where
  | char (c : Char)
  /-- Bytes that begin a character and do not end it, or a byte that begins none. -/
  | broken (bytes : List UInt8)
  deriving DecidableEq

/-- The bytes of a piece. -/
def Piece.bytes : Piece → List UInt8
  | .char c => String.utf8EncodeChar c
  | .broken bytes => bytes

/-- The beginning of a character of more than one byte. -/
structure Beginning where
  bytes : List UInt8
  /-- The number that these bytes stand for. -/
  code : Nat
  /-- How many bytes are to come. -/
  missing : Nat

namespace Beginning

/-- The beginning that a first byte makes. -/
def ofByte? (byte : UInt8) : Option Beginning :=
  let n := byte.toNat
  if n < 0xC2 then none
  else if n < 0xE0 then some ⟨[byte], n - 0xC0, 1⟩
  else if n < 0xF0 then some ⟨[byte], n - 0xE0, 2⟩
  else if n < 0xF5 then some ⟨[byte], n - 0xF0, 3⟩
  else none

/-- Whether the number of a beginning is that of a character which is not written in fewer bytes.
This is known when the second byte is. -/
def IsPossible (beginning : Beginning) : Prop :=
  (beginning.missing = 1 →
    0x20 ≤ beginning.code ∧ ¬ (0x360 ≤ beginning.code ∧ beginning.code ≤ 0x37F)) ∧
  (beginning.missing = 2 → 0x10 ≤ beginning.code ∧ beginning.code ≤ 0x10F)

/-- The beginning with another byte. -/
def push (beginning : Beginning) (byte : UInt8) : Beginning where
  bytes := beginning.bytes ++ [byte]
  code := beginning.code * 0x40 + (byte.toNat - 0x80)
  missing := beginning.missing - 1

/-- Whether a byte can come next. -/
def Takes (beginning : Beginning) (byte : UInt8) : Prop :=
  (0x80 ≤ byte.toNat ∧ byte.toNat ≤ 0xBF) ∧ (beginning.push byte).IsPossible

instance (beginning : Beginning) : Decidable beginning.IsPossible :=
  inferInstanceAs (Decidable (_ ∧ _))

instance (beginning : Beginning) (byte : UInt8) : Decidable (beginning.Takes byte) :=
  inferInstanceAs (Decidable (_ ∧ _))

end Beginning

/-- The pieces that are complete with a byte between characters, and the beginning that it makes. -/
def enter (byte : UInt8) : List Piece × Option Beginning :=
  if byte.toNat < 0x80 then ([.char (Char.ofNat byte.toNat)], none)
  else match Beginning.ofByte? byte with
    | some beginning => ([], some beginning)
    | none => ([.broken [byte]], none)

/-- The pieces that are complete with a byte, and the beginning that is left. -/
def step : Option Beginning → UInt8 → List Piece × Option Beginning
  | none, byte => enter byte
  | some beginning, byte =>
      if beginning.Takes byte then
        let next := beginning.push byte
        if next.missing = 0 then ([.char (Char.ofNat next.code)], none) else ([], some next)
      else
        let (pieces, next) := enter byte
        (.broken beginning.bytes :: pieces, next)

/-- The pieces of bytes behind a beginning. -/
def piecesFrom : Option Beginning → List UInt8 → List Piece
  | none, [] => []
  | some beginning, [] => [.broken beginning.bytes]
  | beginning, byte :: bytes =>
      let (pieces, next) := step beginning byte
      pieces ++ piecesFrom next bytes

/-- The pieces of a text of the system. -/
def pieces (raw : SystemText) : List Piece := piecesFrom none raw.bytes

/-! ### How it is shown -/

/-- How a piece is shown. -/
def Piece.shown : Piece → Char
  | .char c => c
  | .broken _ => '\uFFFD'

/-- The bytes as a text that can be shown. -/
def shown (raw : SystemText) : String := String.ofList (raw.pieces.map Piece.shown)

/-- How a piece is written between quotes. -/
def Piece.quoted : Piece → List Char
  | .char c => Text.quotedChar c
  | .broken bytes =>
      bytes.flatMap fun byte => '\\' :: 'x' :: Text.capitalHexadecimal 2 byte.toNat

/-- The bytes between double quotes. -/
def quoted (raw : SystemText) : String :=
  String.ofList ('"' :: (raw.pieces.flatMap Piece.quoted ++ ['"']))

/-! ### Texts are given back -/

/-- Bytes finish a beginning, as the character with a certain number. -/
inductive Finishes : Beginning → List UInt8 → Nat → Prop where
  | last {beginning : Beginning} {byte : UInt8} (takes : beginning.Takes byte)
      (complete : (beginning.push byte).missing = 0) :
      Finishes beginning [byte] (beginning.push byte).code
  | more {beginning : Beginning} {byte : UInt8} {bytes : List UInt8} {code : Nat}
      (takes : beginning.Takes byte) (missing : (beginning.push byte).missing ≠ 0)
      (rest : Finishes (beginning.push byte) bytes code) :
      Finishes beginning (byte :: bytes) code

/-- Bytes that finish a beginning are read as the rest of one character. -/
theorem piecesFrom_of_finishes {beginning : Beginning} {bytes : List UInt8} {code : Nat}
    (finishes : Finishes beginning bytes code) (rest : List UInt8) :
    piecesFrom (some beginning) (bytes ++ rest) =
      .char (Char.ofNat code) :: piecesFrom none rest := by
  induction finishes with
  | last takes complete =>
      rw [List.singleton_append, piecesFrom, step, if_pos takes]
      simp only
      rw [if_pos complete]
      rfl
  | more takes missing _ ih =>
      rw [List.cons_append, piecesFrom, step, if_pos takes]
      simp only
      rw [if_neg missing]
      exact ih

/-- The first byte of several is kept until the others come. -/
theorem enter_of_ofByte? {byte : UInt8} {beginning : Beginning}
    (begins : Beginning.ofByte? byte = some beginning) : enter byte = ([], some beginning) := by
  have large : ¬ byte.toNat < 0x80 := by
    intro small
    rw [Beginning.ofByte?, if_pos (by omega)] at begins
    cases begins
  rw [enter, if_neg large, begins]

/-- The bytes of a character are read as the character. -/
theorem piecesFrom_utf8EncodeChar (c : Char) (rest : List UInt8) :
    piecesFrom none (String.utf8EncodeChar c ++ rest) = .char c :: piecesFrom none rest := by
  have valid : c.val.toNat < 0xD800 ∨ 0xDFFF < c.val.toNat ∧ c.val.toNat < 0x110000 := c.valid
  have back : Char.ofNat c.val.toNat = c := Char.ofNat_toNat c
  have behind {first : UInt8} {others : List UInt8} {beginning : Beginning} {code : Nat}
      (begins : Beginning.ofByte? first = some beginning)
      (finishes : Finishes beginning others code) (same : code = c.val.toNat) :
      piecesFrom none (first :: others ++ rest) = .char c :: piecesFrom none rest := by
    rw [List.cons_append, piecesFrom, step, enter_of_ofByte? begins]
    simp only
    rw [List.nil_append, piecesFrom_of_finishes finishes, same, back]
  have continuation (n : Nat) : (UInt8.ofNat (n % 64 + 128)).toNat = n % 64 + 128 := by
    rw [UInt8.toNat_ofNat']
    omega
  fun_cases String.utf8EncodeChar c with
  | case1 v small =>
    have byte : (UInt8.ofNat v).toNat = c.val.toNat := by
      rw [UInt8.toNat_ofNat']
      omega
    rw [List.singleton_append, piecesFrom, step, enter, if_pos (by omega), byte, back]
    rfl
  | case2 v large small =>
    have first : (UInt8.ofNat (v / 64 % 32 + 192)).toNat = v / 64 % 32 + 192 := by
      rw [UInt8.toNat_ofNat']
      omega
    have begins : Beginning.ofByte? (UInt8.ofNat (v / 64 % 32 + 192)) =
        some ⟨[UInt8.ofNat (v / 64 % 32 + 192)], v / 64 % 32, 1⟩ := by
      rw [Beginning.ofByte?, first, if_neg (by omega), if_pos (by omega), Nat.add_sub_cancel]
    refine behind begins (.last ?_ rfl) ?_
    · simp only [Beginning.Takes, Beginning.IsPossible, Beginning.push, continuation]
      omega
    · simp only [Beginning.push, continuation]
      omega
  | case3 v _ large small =>
    have first : (UInt8.ofNat (v / 4096 % 16 + 224)).toNat = v / 4096 % 16 + 224 := by
      rw [UInt8.toNat_ofNat']
      omega
    have begins : Beginning.ofByte? (UInt8.ofNat (v / 4096 % 16 + 224)) =
        some ⟨[UInt8.ofNat (v / 4096 % 16 + 224)], v / 4096 % 16, 2⟩ := by
      rw [Beginning.ofByte?, first, if_neg (by omega), if_neg (by omega), if_pos (by omega),
        Nat.add_sub_cancel]
    refine behind begins (.more ?_ Nat.one_ne_zero (.last ?_ rfl)) ?_
    · simp only [Beginning.Takes, Beginning.IsPossible, Beginning.push, continuation]
      omega
    · simp only [Beginning.Takes, Beginning.IsPossible, Beginning.push, continuation]
      omega
    · simp only [Beginning.push, continuation]
      omega
  | case4 v _ _ large =>
    have first : (UInt8.ofNat (v / 262144 % 8 + 240)).toNat = v / 262144 % 8 + 240 := by
      rw [UInt8.toNat_ofNat']
      omega
    have begins : Beginning.ofByte? (UInt8.ofNat (v / 262144 % 8 + 240)) =
        some ⟨[UInt8.ofNat (v / 262144 % 8 + 240)], v / 262144 % 8, 3⟩ := by
      rw [Beginning.ofByte?, first, if_neg (by omega), if_neg (by omega), if_neg (by omega),
        if_pos (by omega), Nat.add_sub_cancel]
    refine behind begins
      (.more ?_ (Nat.succ_ne_zero 1) (.more ?_ Nat.one_ne_zero (.last ?_ rfl))) ?_
    · simp only [Beginning.Takes, Beginning.IsPossible, Beginning.push, continuation]
      omega
    · simp only [Beginning.Takes, Beginning.IsPossible, Beginning.push, continuation]
      omega
    · simp only [Beginning.Takes, Beginning.IsPossible, Beginning.push, continuation]
      omega
    · simp only [Beginning.push, continuation]
      omega

/-- A text is read as its characters. -/
theorem pieces_ofText (text : String) : (ofText text).pieces = text.toList.map .char := by
  have read (cs : List Char) :
      piecesFrom none (cs.flatMap String.utf8EncodeChar) = cs.map .char := by
    induction cs with
    | nil => rfl
    | cons c cs ih => rw [List.flatMap_cons, piecesFrom_utf8EncodeChar, ih, List.map_cons]
  rw [pieces, ofText, Text.utf8_eq_flatMap, read]

/-- A text is shown as it is. -/
@[simp] theorem shown_ofText (text : String) : (ofText text).shown = text := by
  rw [shown, pieces_ofText, List.map_map]
  exact (congrArg String.ofList (List.map_id _)).trans String.ofList_toList

/-- A text is the text that its bytes are the UTF-8 of. -/
@[simp] theorem text?_ofText (text : String) : (ofText text).text? = some text :=
  dif_pos text.isValidUTF8

/-- Different texts are different for the system. -/
theorem ofText_inj {one other : String} : ofText one = ofText other ↔ one = other := by
  refine ⟨fun same => ?_, congrArg ofText⟩
  rw [← Option.some_inj, ← text?_ofText, same, text?_ofText]

/-- Bytes are read as a text if they are this text for the system. -/
theorem text?_eq_some_iff {raw : SystemText} {text : String} :
    raw.text? = some text ↔ raw = ofText text := by
  constructor
  · intro found
    unfold text? String.fromUTF8? at found
    split at found
    · obtain rfl := Option.some.inj found
      rfl
    · cases found
  · rintro rfl
    exact text?_ofText text

/-- Bytes are a text if they are read as one. -/
theorem isSome_text?_iff (raw : SystemText) : raw.text?.isSome = true ↔ raw.IsText := by
  rw [Option.isSome_iff_exists]
  exact exists_congr fun text => text?_eq_some_iff

instance (raw : SystemText) : Decidable raw.IsText :=
  decidable_of_iff (raw.text?.isSome = true) raw.isSome_text?_iff

/-! ### Bytes are given back -/

/-- A beginning is sound if the bytes that finish it make up a character with those that it has. -/
def Beginning.IsSound (beginning : Beginning) : Prop :=
  ∀ bytes code, Finishes beginning bytes code →
    String.utf8EncodeChar (Char.ofNat code) = beginning.bytes ++ bytes

/-- A number that is the code of a character is the code of its character. -/
theorem toNat_ofNat {n : Nat} (valid : n.isValidChar) : (Char.ofNat n).val.toNat = n := by
  rw [Char.ofNat, dif_pos valid]
  exact UInt32.toNat_ofNatLT

theorem ofNat_eq {n : Nat} {byte : UInt8} (same : n = byte.toNat) : UInt8.ofNat n = byte := by
  rw [same, UInt8.ofNat_toNat]

/-- What a first byte makes is sound. -/
theorem isSound_of_ofByte? {byte : UInt8} {beginning : Beginning}
    (begins : Beginning.ofByte? byte = some beginning) : beginning.IsSound := by
  intro bytes code finishes
  unfold Beginning.ofByte? at begins
  simp only at begins
  split at begins
  · cases begins
  -- The number of bytes is known from the first one; each of the others has six bits of the code.
  split at begins
  · cases begins
    cases finishes with
    | more _ missing _ => exact absurd rfl missing
    | @last _ second takes _ =>
        obtain ⟨continues, _⟩ := takes
        simp only [Beginning.push]
        generalize number : (byte.toNat - 0xC0) * 0x40 + (second.toNat - 0x80) = n
        have code := toNat_ofNat (show n.isValidChar from .inl (by omega))
        rw [String.utf8EncodeChar, code, if_neg (by omega), if_pos (by omega)]
        rw [ofNat_eq (show _ = byte.toNat by omega), ofNat_eq (show _ = second.toNat by omega)]
        rfl
  split at begins
  · cases begins
    cases finishes with
    | last _ complete => cases complete
    | @more _ second _ _ takes _ rest =>
        cases rest with
        | more _ missing _ => exact absurd rfl missing
        | @last _ third ends _ =>
            obtain ⟨continues, possible, _⟩ := takes
            obtain ⟨also, _⟩ := ends
            have bounds := possible rfl
            simp only [Beginning.push] at bounds ⊢
            generalize number : ((byte.toNat - 0xE0) * 0x40 + (second.toNat - 0x80)) * 0x40 +
              (third.toNat - 0x80) = n
            have code := toNat_ofNat (show n.isValidChar by unfold Nat.isValidChar; omega)
            rw [String.utf8EncodeChar, code, if_neg (by omega), if_neg (by omega),
              if_pos (by omega), ofNat_eq (show _ = byte.toNat by omega),
              ofNat_eq (show _ = second.toNat by omega), ofNat_eq (show _ = third.toNat by omega)]
            rfl
  split at begins
  · cases begins
    cases finishes with
    | last _ complete => cases complete
    | @more _ second _ _ takes _ rest =>
        cases rest with
        | last _ complete => cases complete
        | @more _ third _ _ goes _ rest =>
            cases rest with
            | more _ missing _ => exact absurd rfl missing
            | @last _ fourth ends _ =>
                obtain ⟨continues, _, possible⟩ := takes
                obtain ⟨further, _⟩ := goes
                obtain ⟨also, _⟩ := ends
                have bounds := possible rfl
                simp only [Beginning.push] at bounds ⊢
                generalize number : (((byte.toNat - 0xF0) * 0x40 + (second.toNat - 0x80)) * 0x40 +
                  (third.toNat - 0x80)) * 0x40 + (fourth.toNat - 0x80) = n
                have code := toNat_ofNat (show n.isValidChar by unfold Nat.isValidChar; omega)
                rw [String.utf8EncodeChar, code, if_neg (by omega), if_neg (by omega),
                  if_neg (by omega), ofNat_eq (show _ = byte.toNat by omega),
                  ofNat_eq (show _ = second.toNat by omega),
                  ofNat_eq (show _ = third.toNat by omega),
                  ofNat_eq (show _ = fourth.toNat by omega)]
                rfl
  · cases begins

/-- A beginning stays sound with another byte. -/
theorem Beginning.IsSound.push {beginning : Beginning} {byte : UInt8} (sound : beginning.IsSound)
    (takes : beginning.Takes byte) (missing : (beginning.push byte).missing ≠ 0) :
    (beginning.push byte).IsSound := by
  intro bytes code finishes
  rw [sound _ _ (.more takes missing finishes), Beginning.push, List.append_assoc,
    List.singleton_append]

/-- A first byte is all that a beginning has at first. -/
theorem bytes_of_ofByte? {byte : UInt8} {beginning : Beginning}
    (begins : Beginning.ofByte? byte = some beginning) : beginning.bytes = [byte] := by
  unfold Beginning.ofByte? at begins
  simp only at begins
  repeat' split at begins
  all_goals cases begins
  all_goals rfl

/-- Between characters, or behind a sound beginning. -/
def IsSound (beginning : Option Beginning) : Prop := ∀ b, beginning = some b → b.IsSound

/-- The bytes that are not in pieces yet. -/
def unread (beginning : Option Beginning) : List UInt8 := beginning.elim [] Beginning.bytes

/-- What is complete with a first byte, and what it begins, have this byte. -/
theorem bytes_enter (byte : UInt8) :
    (enter byte).1.flatMap Piece.bytes ++ unread (enter byte).2 = [byte] ∧
      IsSound (enter byte).2 := by
  unfold enter
  split
  · next small =>
      refine ⟨?_, fun _ none => by cases none⟩
      have code := toNat_ofNat (show byte.toNat.isValidChar from .inl (by omega))
      have encoded : String.utf8EncodeChar (Char.ofNat byte.toNat) = [byte] := by
        rw [String.utf8EncodeChar, code, if_pos (by omega), ofNat_eq rfl]
      simp [Piece.bytes, encoded, unread]
  · split
    · next beginning begins =>
        refine ⟨bytes_of_ofByte? begins, ?_⟩
        rintro _ ⟨⟩
        exact isSound_of_ofByte? begins
    · exact ⟨rfl, fun _ none => by cases none⟩

/-- No byte is lost or added in a step. -/
theorem bytes_step {beginning : Option Beginning} (sound : IsSound beginning) (byte : UInt8) :
    (step beginning byte).1.flatMap Piece.bytes ++ unread (step beginning byte).2 =
        unread beginning ++ [byte] ∧
      IsSound (step beginning byte).2 := by
  cases beginning with
  | none => exact bytes_enter byte
  | some beginning =>
      by_cases takes : beginning.Takes byte
      · rw [step, if_pos takes]
        simp only
        by_cases complete : (beginning.push byte).missing = 0
        · rw [if_pos complete]
          refine ⟨?_, fun _ none => by cases none⟩
          have encoded := sound beginning rfl [byte] _ (.last takes complete)
          simp [Piece.bytes, encoded, unread]
        · rw [if_neg complete]
          refine ⟨rfl, ?_⟩
          rintro _ ⟨⟩
          exact (sound beginning rfl).push takes complete
      · obtain ⟨same, next⟩ := bytes_enter byte
        rw [step, if_neg takes]
        refine ⟨?_, next⟩
        rw [List.flatMap_cons, List.append_assoc, same]
        rfl

/-- The pieces of bytes make up the bytes. -/
theorem bytes_piecesFrom {beginning : Option Beginning} (sound : IsSound beginning)
    (bytes : List UInt8) :
    (piecesFrom beginning bytes).flatMap Piece.bytes = unread beginning ++ bytes := by
  induction bytes generalizing beginning with
  | nil => cases beginning <;> simp [piecesFrom, unread, Piece.bytes]
  | cons byte bytes ih =>
      obtain ⟨same, next⟩ := bytes_step sound byte
      have unfolded : piecesFrom beginning (byte :: bytes) =
          (step beginning byte).1 ++ piecesFrom (step beginning byte).2 bytes := by
        cases beginning <;> rfl
      rw [unfolded, List.flatMap_append, ih next, ← List.append_assoc, same, List.append_assoc,
        List.singleton_append]

/-- Pieces are all characters, or one of them is broken. -/
theorem exists_chars_or_broken (pieces : List Piece) :
    (∃ cs : List Char, pieces = cs.map .char) ∨ ∃ bytes, .broken bytes ∈ pieces := by
  induction pieces with
  | nil => exact .inl ⟨[], rfl⟩
  | cons piece pieces ih =>
      cases piece with
      | broken bytes => exact .inr ⟨bytes, List.mem_cons_self⟩
      | char c =>
          obtain ⟨cs, rfl⟩ | ⟨bytes, among⟩ := ih
          · exact .inl ⟨c :: cs, rfl⟩
          · exact .inr ⟨bytes, List.mem_cons_of_mem _ among⟩

/-- Bytes are a text, or some of them are shown as a replacement character. -/
theorem isText_or_exists_broken (raw : SystemText) :
    raw.IsText ∨ ∃ bytes, .broken bytes ∈ raw.pieces := by
  refine (exists_chars_or_broken raw.pieces).imp_left ?_
  rintro ⟨cs, whole⟩
  have sound : IsSound none := fun _ none => by cases none
  have bytes : raw.bytes = cs.flatMap String.utf8EncodeChar := by
    have made := bytes_piecesFrom sound raw.bytes
    rw [← pieces, whole, List.flatMap_map] at made
    exact made.symm
  refine ⟨String.ofList cs, ?_⟩
  cases raw with
  | mk found =>
      rw [ofText, Text.utf8_eq_flatMap, String.toList_ofList, ← bytes]

/-- Bytes that are no text are shown with a replacement character. -/
theorem mem_shown_of_not_isText {raw : SystemText} (foreign : ¬ raw.IsText) :
    '\uFFFD' ∈ raw.shown.toList := by
  obtain ⟨bytes, among⟩ := raw.isText_or_exists_broken.resolve_left foreign
  rw [shown, String.toList_ofList]
  exact List.mem_map.2 ⟨_, among, rfl⟩

end SystemText

end ClusterHosts
