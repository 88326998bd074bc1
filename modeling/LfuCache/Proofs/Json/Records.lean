import Mathlib
import LfuCache.Message
import LfuCache.Proofs.Json.Numbers
import LfuCache.Proofs.Json.Strings

/-!
# Records, there and back

A record without doubles is read as it was written. Its fields come in order, and the reader
could take them in any.
-/

namespace LfuCache.Json

open Text

/-! ## Values that fit -/

/-- A value that is read as it was written. A double may be one bit off. -/
def Kind.Fits : (kind : Kind) → kind.Value → Prop
  | .text, _ => True
  | .flag, _ => True
  | .whole, n => n < UInt64.size
  | .maybeWhole, n => ∀ m ∈ n, m < UInt64.size
  | .real, _ => False

def Record.Fits : {fields : List Field} → Record fields → Prop
  | [], () => True
  | f :: _, (value, values) => f.kind.Fits value ∧ Record.Fits values

theorem skipSpace_cons {b : UInt8} (h : isSpace b = false) (text : List UInt8) :
    skipSpace (b :: text) = b :: text := by
  simp [skipSpace, h]

theorem readText_quote (s : String) (rest : List UInt8) :
    readText (skipSpace (bytes (quote s) ++ rest)) = .ok (s, rest) := by
  rw [bytes_quote, List.cons_append, List.cons_append, skipSpace_cons (by decide), readText,
    if_pos rfl, List.append_assoc]
  exact readString_body s rest

theorem isSpace_of_isDigit {b : UInt8} (h : isDigit b = true) : isSpace b = false := by
  have hne : ∀ c, isDigit c = false → b ≠ c := by
    rintro c hc rfl
    rw [h] at hc
    exact absurd hc (by simp)
  simp [isSpace, hne 0x20 (by decide), hne 0x09 (by decide), hne 0x0A (by decide),
    hne 0x0D (by decide)]

theorem skipSpace_number (n : Nat) (rest : List UInt8) :
    skipSpace (bytes (toString n) ++ rest) = bytes (toString n) ++ rest := by
  obtain ⟨b, more, hbytes, hb⟩ := bytes_toString_eq_cons n
  rw [hbytes, List.cons_append, skipSpace_cons (isSpace_of_isDigit hb)]

theorem Kind.read_write {kind : Kind} {value : kind.Value} {scalar : Scalar}
    (hfits : kind.Fits value) (hscalar : kind.scalar? value = some scalar) {rest : List UInt8}
    (hrest : EndsNumber rest) : kind.read (bytes scalar.write ++ rest) = .ok (value, rest) := by
  cases kind with
  | text =>
    obtain rfl := Option.some.inj hscalar
    exact readText_quote value rest
  | flag =>
    obtain rfl := Option.some.inj hscalar
    have hword : bytes (if value then "true" else "false") =
        if value then [byte 't', byte 'r', byte 'u', byte 'e']
        else [byte 'f', byte 'a', byte 'l', byte 's', byte 'e'] := by
      cases value <;> (rw [bytes_eq]; decide)
    rw [Scalar.write, hword]
    cases value <;> rfl
  | whole =>
    obtain rfl := Option.some.inj hscalar
    simp only [Kind.read, Scalar.write, skipSpace_number]
    exact readWhole_append hfits hrest
  | maybeWhole =>
    obtain ⟨n, rfl, rfl⟩ := Option.map_eq_some_iff.mp hscalar
    have hread := readWhole_append (hfits n rfl) hrest
    obtain ⟨b, more, hbytes, hb⟩ := bytes_toString_eq_cons n
    have hnull : b ≠ byte 'n' := by
      rintro rfl
      exact absurd hb (by decide)
    simp only [Kind.read, Scalar.write, skipSpace_number]
    rw [hbytes, List.cons_append] at hread ⊢
    simp only [readMaybeWhole, if_neg hnull, hread, bind, Except.bind]
  | real => exact hfits.elim

/-! ## Members -/

def memberText (m : String × Scalar) : List UInt8 :=
  bytes (quote m.1) ++ byte ':' :: bytes m.2.write

/-- Members with a comma between them. After the first one each has a comma before it. -/
def membersText : (first : Bool) → List (String × Scalar) → List UInt8
  | _, [] => []
  | first, m :: members =>
    (if first then [] else [byte ',']) ++ memberText m ++ membersText false members

theorem bytes_intercalate (m : String × Scalar) (members : List (String × Scalar)) :
    bytes (",".intercalate ((m :: members).map fun (name, s) => quote name ++ ":" ++ s.write)) =
      memberText m ++ membersText false members := by
  have hcolon : bytes ":" = [byte ':'] := by rw [bytes_eq]; decide
  have hcomma : bytes "," = [byte ','] := by rw [bytes_eq]; decide
  induction members generalizing m with
  | nil => simp [memberText, membersText, hcolon]
  | cons next members ih =>
    have hrest := ih next
    rw [List.map_cons] at hrest
    rw [List.map_cons, List.map_cons, String.intercalate_cons_cons, bytes_append, bytes_append,
      hrest]
    simp [memberText, membersText, hcolon, hcomma]

theorem bytes_writeCompact (members : List (String × Scalar)) :
    bytes (writeCompact members) = 0x7B :: membersText true members ++ [0x7D] := by
  have hopen : bytes "\x7b" = [0x7B] := by rw [bytes_eq]; decide
  have hclose : bytes "\x7d" = [0x7D] := by rw [bytes_eq]; decide
  have hempty : bytes "" = [] := by rw [bytes_eq]; decide
  rw [writeCompact, bytes_append, bytes_append, hopen, hclose]
  cases members with
  | nil => simp [membersText, hempty]
  | cons m members =>
    rw [bytes_intercalate]
    simp [membersText]

theorem length_le_membersText (first : Bool) (members : List (String × Scalar)) :
    members.length ≤ (membersText first members).length := by
  induction members generalizing first with
  | nil => exact Nat.le_refl 0
  | cons m members ih =>
    have hrest := ih false
    simp only [membersText, memberText, List.length_append, List.length_cons]
    omega

theorem endsNumber_members (members : List (String × Scalar)) (rest : List UInt8) :
    EndsNumber (membersText false members ++ 0x7D :: rest) := by
  cases members with
  | nil =>
    rintro b ⟨⟩
    decide
  | cons =>
    rintro b ⟨⟩
    decide

/-! ## Fields -/

/-- The slots once the members of a record are read. -/
def Record.taken : {fields : List Field} → Record fields → Partial fields
  | [], () => ()
  | f :: _, (value, values) => ((f.kind.scalar? value).map fun _ => value, Record.taken values)

theorem complete_taken {fields : List Field} (record : Record fields) :
    Partial.complete record.taken = .ok record := by
  induction fields with
  | nil => rfl
  | cons f fields ih =>
    obtain ⟨value, values⟩ := record
    have hslot : (((f.kind.scalar? value).map fun _ => value).or f.kind.missing?) = some value := by
      obtain ⟨name, kind⟩ := f
      cases kind with
      | maybeWhole => cases value <;> rfl
      | text => rfl
      | flag => rfl
      | whole => rfl
      | real => rfl
    simp only [Record.taken, Partial.complete, hslot, ih, bind, Except.bind]

theorem readName_quote (name : String) (rest : List UInt8) :
    readName (bytes (quote name) ++ rest) = .ok (name, rest) := by
  rw [readName, bytes_quote, List.cons_append, List.cons_append, skipSpace_cons (by decide)]
  simp only [if_true, List.append_assoc]
  exact readString_body name rest

theorem readFields_member {fields : List Field} {slots next : Partial fields} {name : String}
    {steps : Nat} {text rest : List UInt8} (h : slots.readField steps name text = .ok (next, rest))
    (first : Bool) :
    readFields (steps + 1) first slots
        ((if first then [] else [byte ',']) ++ bytes (quote name) ++ text) =
      readFields steps false next rest := by
  have hname := readName_quote name text
  cases first with
  | true =>
    have hquote : bytes (quote name) = byte '"' :: (body name ++ [byte '"']) := bytes_quote name
    have hmore : byte '"' ≠ Bracket.object.close := by decide
    rw [if_pos rfl, List.nil_append]
    rw [hquote, List.cons_append] at hname ⊢
    simp only [readFields, skipSpace_cons (by decide : isSpace (byte '"') = false), if_neg hmore,
      if_true, hname, h, bind, Except.bind]
  | false =>
    have hmore : byte ',' ≠ Bracket.object.close := by decide
    rw [if_neg (by simp), List.append_assoc, List.singleton_append]
    simp only [readFields, skipSpace_cons (by decide : isSpace (byte ',') = false), if_neg hmore,
      Bool.false_eq_true, if_false, if_true, hname, h, bind, Except.bind]

theorem readField_self {f : Field} {fields : List Field} {value : f.kind.Value} {scalar : Scalar}
    (hfits : f.kind.Fits value) (hscalar : f.kind.scalar? value = some scalar)
    (slots : Partial fields) (steps : Nat) {rest : List UInt8} (hrest : EndsNumber rest) :
    @Partial.readField steps f.name (f :: fields) (none, slots)
        (byte ':' :: bytes scalar.write ++ rest) = .ok ((some value, slots), rest) := by
  have hcolon : expectByte (byte ':') (byte ':' :: bytes scalar.write ++ rest) =
      .ok (bytes scalar.write ++ rest) := by
    rw [expectByte, List.cons_append, skipSpace_cons (by decide)]
    simp [expect]
  simp only [Partial.readField, if_true, hcolon, bind, Except.bind,
    Kind.read_write hfits hscalar hrest]

theorem readField_other {f : Field} {fields : List Field} {name : String} (h : f.name ≠ name)
    (slot : Option f.kind.Value) (slots : Partial fields) (steps : Nat) (text : List UInt8) :
    @Partial.readField steps name (f :: fields) (slot, slots) text =
      (slots.readField steps name text).map fun (slots, rest) => ((slot, slots), rest) := by
  simp only [Partial.readField, if_neg h, bind, Except.bind]
  cases slots.readField steps name text <;> rfl

/-- The slots of these fields lie among others, and reading one of the fields goes to its slot. -/
def Embeds {fields all : List Field} (embed : Partial fields → Partial all) : Prop :=
  ∀ steps, ∀ name ∈ fields.map (·.name), ∀ slots text,
    (embed slots).readField steps name text =
      (slots.readField steps name text).map fun (slots, rest) => (embed slots, rest)

theorem Embeds.self (fields : List Field) : Embeds fun slots : Partial fields => slots := by
  intro steps name _ slots text
  cases slots.readField steps name text <;> rfl

theorem Embeds.tail {f : Field} {fields all : List Field}
    {embed : Partial (f :: fields) → Partial all} (h : Embeds embed)
    (hname : f.name ∉ fields.map (·.name)) (slot : Option f.kind.Value) :
    Embeds fun slots : Partial fields => embed (slot, slots) := by
  intro steps name hmem slots text
  have hne : f.name ≠ name := fun heq => hname (heq ▸ hmem)
  rw [h steps name (List.mem_cons_of_mem _ hmem), readField_other hne]
  cases slots.readField steps name text <;> rfl

theorem readFields_members {fields all : List Field} {embed : Partial fields → Partial all}
    (hembed : Embeds embed) (hnames : (fields.map (·.name)).Nodup) {record : Record fields}
    (hfits : record.Fits) (first : Bool) {steps : Nat} (hsteps : record.members.length < steps)
    (rest : List UInt8) :
    readFields steps first (embed (.none fields))
        (membersText first record.members ++ 0x7D :: rest) = .ok (embed record.taken, rest) := by
  induction fields generalizing first steps with
  | nil =>
    cases steps with
    | zero => exact absurd hsteps (by simp)
    | succ steps => rfl
  | cons f fields ih =>
    obtain ⟨value, values⟩ := record
    obtain ⟨hvalue, hvalues⟩ := hfits
    obtain ⟨hname, hothers⟩ := List.nodup_cons.mp hnames
    cases hscalar : f.kind.scalar? value with
    | none =>
      have hmembers : @Record.members (f :: fields) (value, values) = values.members := by
        simp [Record.members, hscalar]
      have htaken : @Record.taken (f :: fields) (value, values) = (none, values.taken) := by
        simp [Record.taken, hscalar]
      rw [hmembers] at hsteps ⊢
      rw [htaken]
      exact ih (hembed.tail hname none) hothers hvalues first hsteps
    | some scalar =>
      have hmembers : @Record.members (f :: fields) (value, values) =
          (f.name, scalar) :: values.members := by
        simp [Record.members, hscalar]
      have htaken : @Record.taken (f :: fields) (value, values) = (some value, values.taken) := by
        simp [Record.taken, hscalar]
      rw [hmembers] at hsteps ⊢
      rw [htaken]
      cases steps with
      | zero => exact absurd hsteps (by simp)
      | succ steps =>
        have hself := readField_self hvalue hscalar (.none fields) steps
          (endsNumber_members values.members rest)
        have hread := hembed steps f.name List.mem_cons_self (.none (f :: fields))
          (byte ':' :: bytes scalar.write ++ (membersText false values.members ++ 0x7D :: rest))
        rw [Partial.none, hself] at hread
        have hstep := readFields_member hread first
        have hrest := ih (hembed.tail hname (some value)) hothers hvalues false
          (Nat.lt_of_succ_lt_succ hsteps)
        simp only [membersText, memberText, List.append_assoc, List.cons_append] at hstep ⊢
        exact hstep.trans hrest

/-! ## Whole records -/

theorem readRecord_writeCompact {fields : List Field} (hnames : (fields.map (·.name)).Nodup)
    {record : Record fields} (hfits : record.Fits) (rest : List UInt8) :
    readRecord fields (bytes (writeCompact record.members) ++ rest) = .ok (record, rest) := by
  have hsteps : record.members.length <
      enoughSteps (membersText true record.members ++ 0x7D :: rest) := by
    have hlength := length_le_membersText true record.members
    rw [enoughSteps, List.length_append]
    omega
  have hfields := readFields_members (Embeds.self fields) hnames hfits true hsteps rest
  have hopens : opens? 0x7B = some .object := by decide
  have hspace : isSpace 0x7B = false := by decide
  rw [bytes_writeCompact, List.append_assoc, List.singleton_append, List.cons_append]
  simp only [readRecord, skipSpace_cons hspace, hopens, hfields, complete_taken, bind, Except.bind]

end LfuCache.Json

namespace LfuCache

open Text

theorem Message.readFront_write {α : Type} [Message α]
    (hnames : ((Message.fields α).map (·.name)).Nodup) {message : α}
    (hfits : (Message.toRecord message).Fits)
    (hsame : Message.ofRecord (Message.toRecord message) = message) (rest : List UInt8) :
    Message.readFront α (bytes (Message.write message) ++ rest) = .ok message := by
  have hread := Json.readRecord_writeCompact hnames hfits rest
  simp only [Message.readFront, Message.write, Message.members, hread, hsame, bind, Except.bind]

theorem SetRequest.readFront_write (request : SetRequest)
    (hcost : ∀ n ∈ request.cost, n < UInt64.size) (httl : ∀ n ∈ request.ttl, n < UInt64.size)
    (rest : List UInt8) :
    Message.readFront SetRequest (bytes (Message.write request) ++ rest) = .ok request := by
  have hfits : (Message.toRecord request).Fits := ⟨trivial, trivial, hcost, httl, trivial⟩
  exact Message.readFront_write (by decide) hfits rfl rest

end LfuCache
