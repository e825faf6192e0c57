import FilterQuery.Document.Shell
import FilterQuery.Proofs.ShellText

/-!
# Layouts of shell text

The text of a document is a row of pieces (brackets, keys, scalars, commas) with breaks between
them. The pieces tell where the breaks stand and how many brackets are open at each, so the two
texts of a document differ in how a break is filled and in nothing else.
-/

namespace FilterQuery

namespace Text

inductive Piece where
  | opening (c : Char)
  | closing (c : Char)
  | comma
  | text (cs : List Char)

namespace Piece

def chars : Piece → List Char
  | opening c => [c]
  | closing c => [c]
  | comma => [',']
  | text cs => cs

def isOpening : Piece → Bool
  | opening _ => true
  | _ => false

def isClosing : Piece → Bool
  | closing _ => true
  | _ => false

/-- Whether the row is broken behind the piece. -/
def breaks : Piece → Bool
  | opening _ => true
  | comma => true
  | _ => false

end Piece

def openings (ps : List Piece) : ℕ :=
  ps.countP Piece.isOpening

def closings (ps : List Piece) : ℕ :=
  ps.countP Piece.isClosing

/-- How many brackets are open behind the pieces. -/
def openBrackets (ps : List Piece) : ℕ :=
  openings ps - closings ps

/-- No bracket is closed before it is opened, and none is left open. -/
structure Balanced (ps : List Piece) : Prop where
  closings_take_le : ∀ k, closings (ps.take k) ≤ openings (ps.take k)
  openings_eq : openings ps = closings ps

/-- What stands between the pieces written so far and the next one. There is a break after an
opening bracket, after a comma and in front of a closing bracket, where the depth is the one behind
the closing bracket. Brackets with nothing in them are not set apart. -/
def lead (gap : Break) (written : List Piece) : Piece → List Char
  | .closing c =>
    if written.getLast?.any Piece.isOpening then []
    else gap (openBrackets (written ++ [.closing c]))
  | _ => if written.getLast?.any Piece.breaks then gap (openBrackets written) else []

/-- The text of a row of pieces that comes after `written`. -/
def layOut (gap : Break) (written : List Piece) : List Piece → List Char
  | [] => []
  | p :: rest => lead gap written p ++ p.chars ++ layOut gap (written ++ [p]) rest

section Counts

variable {ps qs : List Piece}

@[simp] lemma openings_append : openings (ps ++ qs) = openings ps + openings qs :=
  List.countP_append

@[simp] lemma closings_append : closings (ps ++ qs) = closings ps + closings qs :=
  List.countP_append

@[simp] lemma openings_cons (p : Piece) :
    openings (p :: ps) = openings ps + if p.isOpening then 1 else 0 :=
  List.countP_cons

@[simp] lemma closings_cons (p : Piece) :
    closings (p :: ps) = closings ps + if p.isClosing then 1 else 0 :=
  List.countP_cons

@[simp] lemma openings_nil : openings [] = 0 := rfl

@[simp] lemma closings_nil : closings [] = 0 := rfl

lemma Balanced.nil : Balanced [] where
  closings_take_le k := by simp
  openings_eq := rfl

lemma Balanced.append (hp : Balanced ps) (hq : Balanced qs) : Balanced (ps ++ qs) where
  closings_take_le k := by
    rw [List.take_append, closings_append, openings_append]
    exact Nat.add_le_add (hp.closings_take_le k) (hq.closings_take_le _)
  openings_eq := by
    rw [closings_append, openings_append, hp.openings_eq, hq.openings_eq]

lemma Balanced.single {p : Piece} (ho : p.isOpening = false) (hc : p.isClosing = false) :
    Balanced [p] where
  closings_take_le k := by
    cases k <;> simp [ho, hc]
  openings_eq := by simp [ho, hc]

lemma Balanced.enclose (h : Balanced ps) (o c : Char) :
    Balanced (.opening o :: ps ++ [.closing c]) where
  closings_take_le k := by
    cases k with
    | zero => simp
    | succ k =>
      have htake := h.closings_take_le k
      have hlast : closings (List.take (k - ps.length) [Piece.closing c]) ≤ 1 :=
        List.countP_le_length.trans (List.length_take_le' _ _)
      simp only [List.cons_append, List.take_succ_cons, List.take_append, openings_cons,
        closings_cons, openings_append, closings_append, Piece.isOpening, Piece.isClosing,
        Bool.false_eq_true, ↓reduceIte]
      omega
  openings_eq := by
    simp [Piece.isOpening, Piece.isClosing, h.openings_eq]

end Counts

section Rows

variable {gap : Break} {written ps qs : List Piece} {depth : ℕ}

lemma openBrackets_eq (h : openings written = closings written + depth) :
    openBrackets written = depth := by
  rw [openBrackets, h, Nat.add_sub_cancel_left]

lemma layOut_append :
    layOut gap written (ps ++ qs) = layOut gap written ps ++ layOut gap (written ++ ps) qs := by
  induction ps generalizing written with
  | nil => simp [layOut]
  | cons p rest ih => simp [layOut, ih]

/-- What stands in front of anything but a closing bracket. -/
def leadIn (gap : Break) (written : List Piece) (depth : ℕ) : List Char :=
  if written.getLast?.any Piece.breaks then gap depth else []

lemma lead_eq_leadIn {p : Piece} (hp : p.isClosing = false)
    (h : openings written = closings written + depth) :
    lead gap written p = leadIn gap written depth := by
  cases p with
  | closing c => cases hp
  | _ =>
    rw [leadIn, ← openBrackets_eq h]
    rfl

/-- A row of pieces whose layout at each depth is known: brackets in it are closed in it, and the
row is not broken behind it. -/
structure Lays (gap : Break) (ps : List Piece) (text : ℕ → List Char) : Prop where
  balanced : Balanced ps
  ends : ∃ qs p, ps = qs ++ [p] ∧ p.breaks = false
  layOut_eq : ∀ {written : List Piece} {depth : ℕ}, openings written = closings written + depth →
    layOut gap written ps = leadIn gap written depth ++ text depth

namespace Lays

variable {text text' : ℕ → List Char}

lemma single (cs : List Char) : Lays gap [.text cs] fun _ => cs where
  balanced := .single rfl rfl
  ends := ⟨[], .text cs, rfl, rfl⟩
  layOut_eq h := by
    rw [layOut, layOut, lead_eq_leadIn rfl h, List.append_nil, Piece.chars]

/-- A text is not set apart from what follows it. -/
lemma labelled (cs : List Char) (h : Lays gap ps text) :
    Lays gap (.text cs :: ps) fun depth => cs ++ text depth where
  balanced := (Balanced.single rfl rfl).append h.balanced
  ends := by
    obtain ⟨qs, p, rfl, hp⟩ := h.ends
    exact ⟨.text cs :: qs, p, rfl, hp⟩
  layOut_eq {written depth} hw := by
    have hw' : openings (written ++ [.text cs]) = closings (written ++ [.text cs]) + depth := by
      simpa [Piece.isOpening, Piece.isClosing] using hw
    have hlead : leadIn gap (written ++ [.text cs]) depth = [] := by
      simp [leadIn, Piece.breaks]
    rw [layOut, lead_eq_leadIn rfl hw, h.layOut_eq hw', hlead, Piece.chars, List.nil_append,
      List.append_assoc]

lemma comma (hp : Lays gap ps text) (hq : Lays gap qs text') :
    Lays gap (ps ++ .comma :: qs) fun depth => text depth ++ ',' :: gap depth ++ text' depth where
  balanced := hp.balanced.append ((Balanced.single rfl rfl).append hq.balanced)
  ends := by
    obtain ⟨rs, p, rfl, hlast⟩ := hq.ends
    exact ⟨ps ++ .comma :: rs, p, by simp, hlast⟩
  layOut_eq {written depth} hw := by
    have hps : openings (written ++ ps) = closings (written ++ ps) + depth := by
      rw [openings_append, closings_append, hp.balanced.openings_eq, hw]
      omega
    have hcomma : openings (written ++ ps ++ [.comma]) =
        closings (written ++ ps ++ [.comma]) + depth := by
      simpa [Piece.isOpening, Piece.isClosing] using hps
    have hbefore : leadIn gap (written ++ ps) depth = [] := by
      obtain ⟨rs, p, rfl, hlast⟩ := hp.ends
      simp [leadIn, ← List.append_assoc, hlast]
    have hafter : leadIn gap (written ++ ps ++ [.comma]) depth = gap depth := by
      simp [leadIn, Piece.breaks]
    rw [layOut_append, layOut, hp.layOut_eq hw, lead_eq_leadIn rfl hps, hq.layOut_eq hcomma,
      hbefore, hafter, Piece.chars]
    simp

lemma brackets (o c : Char) : Lays gap [.opening o, .closing c] fun _ => [o, c] where
  balanced := Balanced.nil.enclose o c
  ends := ⟨[.opening o], .closing c, rfl, rfl⟩
  layOut_eq {written depth} h := by
    have hlead : lead gap (written ++ [.opening o]) (.closing c) = [] := by
      simp [lead, Piece.isOpening]
    rw [layOut, layOut, layOut, lead_eq_leadIn rfl h, hlead]
    simp [Piece.chars]

lemma enclose (o c : Char) (h : Lays gap ps text) :
    Lays gap (.opening o :: ps ++ [.closing c])
      fun depth => o :: gap (depth + 1) ++ text (depth + 1) ++ gap depth ++ [c] where
  balanced := h.balanced.enclose o c
  ends := ⟨.opening o :: ps, .closing c, rfl, rfl⟩
  layOut_eq {written depth} hw := by
    have hopen : openings (written ++ [.opening o]) =
        closings (written ++ [.opening o]) + (depth + 1) := by
      simp [Piece.isOpening, Piece.isClosing, hw]
      omega
    have hclosed : openings (written ++ [.opening o] ++ ps ++ [.closing c]) =
        closings (written ++ [.opening o] ++ ps ++ [.closing c]) + depth := by
      simp [Piece.isOpening, Piece.isClosing, hw, h.balanced.openings_eq]
      omega
    have hfirst : leadIn gap (written ++ [.opening o]) (depth + 1) = gap (depth + 1) := by
      simp [leadIn, Piece.breaks]
    have hlast : lead gap (written ++ [.opening o] ++ ps) (.closing c) = gap depth := by
      rw [lead, openBrackets_eq hclosed]
      obtain ⟨qs, p, rfl, hp⟩ := h.ends
      have hno : p.isOpening = false := by
        cases p with
        | opening c => cases hp
        | _ => rfl
      simp [← List.append_assoc, hno]
    rw [List.cons_append, layOut, layOut_append, layOut, layOut, lead_eq_leadIn rfl hw,
      h.layOut_eq hopen, hfirst, hlast]
    simp [Piece.chars]

/-- Items with commas between them, each at the depth of the whole. -/
lemma commaSeparated {α : Type} {pieces : α → List Piece} {text : ℕ → α → List Char}
    {items : List α} (hne : items ≠ [])
    (h : ∀ a ∈ items, Lays gap (pieces a) fun depth => text depth a) :
    Lays gap ([.comma].intercalate (items.map pieces))
      fun depth => Text.commaSeparated (gap depth) (items.map (text depth)) := by
  induction items with
  | nil => exact absurd rfl hne
  | cons a rest ih =>
    have ha := h a List.mem_cons_self
    cases rest with
    | nil => simpa [Text.commaSeparated] using ha
    | cons b rest =>
      have hrest := ih (List.cons_ne_nil b rest) fun x hx => h x (List.mem_cons_of_mem a hx)
      simpa [List.intercalate, Text.commaSeparated] using ha.comma hrest

end Lays

end Rows

/-- A list in brackets. -/
def bracketed (o c : Char) (items : List (List Piece)) : List Piece :=
  .opening o :: [.comma].intercalate items ++ [.closing c]

lemma lays_bracketed {gap : Break} {α : Type} {pieces : α → List Piece}
    {text : ℕ → α → List Char} {items : List α} (o c : Char)
    (h : ∀ a ∈ items, Lays gap (pieces a) fun depth => text depth a) :
    Lays gap (bracketed o c (items.map pieces))
      fun depth => enclose o c gap depth (items.map (text (depth + 1))) := by
  cases items with
  | nil => exact .brackets o c
  | cons a rest => exact (Lays.commaSeparated (List.cons_ne_nil a rest) h).enclose o c

end Text

/-- To prove something of all values, it is enough to prove it of arrays and documents in which it
holds of each value. -/
@[elab_as_elim]
theorem Value.induction {motive : Value → Prop} (boolean : ∀ b, motive (boolean b))
    (double : ∀ x, motive (double x)) (string : ∀ s, motive (string s))
    (regex : ∀ p, motive (regex p)) (date : ∀ t, motive (date t))
    (objectId : ∀ id, motive (objectId id))
    (array : ∀ items, (∀ v ∈ items, motive v) → motive (array items))
    (document : ∀ entries, (∀ e ∈ entries, motive e.2) → motive (document entries)) (v : Value) :
    motive v :=
  match v with
  | .boolean b => boolean b
  | .double x => double x
  | .string s => string s
  | .regex p => regex p
  | .date t => date t
  | .objectId id => objectId id
  | .array items => array items fun v _ =>
    induction boolean double string regex date objectId array document v
  | .document entries => document entries fun e _ =>
    induction boolean double string regex date objectId array document e.2
termination_by sizeOf v
decreasing_by
  · rename_i hmem
    have := List.sizeOf_lt_of_mem hmem
    simp only [Value.array.sizeOf_spec]
    omega
  · rename_i hmem
    have := List.sizeOf_lt_of_mem hmem
    cases e
    simp only [Value.document.sizeOf_spec, Prod.mk.sizeOf_spec] at this ⊢
    omega

namespace Shell

open Text

mutual

/-- A value in pieces: a scalar is one text, and so is the key of an entry with the colon and the
space behind it. -/
def pieces : Value → List Piece
  | .array items => bracketed '[' ']' (itemPieces items)
  | .document entries => bracketed '\x7b' '\x7d' (entryPieces entries)
  | scalar => [.text (print .none 0 scalar)]

def itemPieces : List Value → List (List Piece)
  | [] => []
  | v :: rest => pieces v :: itemPieces rest

def entryPieces : List (String × Value) → List (List Piece)
  | [] => []
  | (key, v) :: rest => (.text (keyText key ++ [':', ' ']) :: pieces v) :: entryPieces rest

end

lemma itemPieces_eq (items : List Value) : itemPieces items = items.map pieces := by
  induction items with
  | nil => rfl
  | cons v rest ih => rw [itemPieces, ih, List.map_cons]

lemma entryPieces_eq (entries : List (String × Value)) :
    entryPieces entries =
      entries.map fun e => .text (keyText e.1 ++ [':', ' ']) :: pieces e.2 := by
  induction entries with
  | nil => rfl
  | cons e rest ih => rw [entryPieces, ih, List.map_cons]

/-- By induction on the value, printing it at some depth lays its pieces out there. -/
theorem lays_pieces (gap : Break) (v : Value) :
    Lays gap (pieces v) fun depth => print gap depth v := by
  induction v using Value.induction with
  | array items ih =>
    simp only [pieces, print, itemPieces_eq, printItems_eq]
    exact lays_bracketed '[' ']' ih
  | document entries ih =>
    simp only [pieces, print, entryPieces_eq, printEntries_eq]
    apply lays_bracketed '\x7b' '\x7d'
    intro e he
    simpa [printEntry] using (ih e he).labelled (keyText e.1 ++ [':', ' '])
  | _ => exact .single _

lemma print_eq_layOut (gap : Break) (v : Value) : print gap 0 v = layOut gap [] (pieces v) := by
  have hnone : openings [] = closings [] + 0 := rfl
  rw [(lays_pieces gap v).layOut_eq hnone]
  rfl

/-- The text on one line and the text on many are layouts of one row of pieces, in which every
bracket is closed. They differ in the breaks alone: a space in the one, and in the other a line feed
and two spaces for each bracket that is open. -/
theorem compact_pretty_layouts (d : Document) :
    Balanced (pieces d.toValue) ∧
      compact d = String.ofList (layOut (fun _ => [' ']) [] (pieces d.toValue)) ∧
      pretty d = String.ofList
        (layOut (fun depth => '\n' :: List.replicate (2 * depth) ' ') [] (pieces d.toValue)) :=
  ⟨(lays_pieces .none d.toValue).balanced, congrArg String.ofList (print_eq_layOut .space _),
    congrArg String.ofList (print_eq_layOut .line _)⟩

end Shell

end FilterQuery
