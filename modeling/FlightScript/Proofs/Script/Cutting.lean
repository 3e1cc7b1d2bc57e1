import FlightScript.Proofs.Script.Refusals
/-!
# Scripts that are cut

The receive buffer cuts a script that is too long, and it may do so anywhere: in a word, in a name, between
two tokens, or behind the statement.  What is left may be refused, but it is never another statement.

## Accepted twice

If a script and a front of it are both accepted, they agree on everything up to the semicolon.  A layout
says by itself where its call ends, so the call of the front is a call in front of the whole
(`Layout.call_eq_of_prefix`), and nothing but the words behind the semicolon can differ.

## Refused once

An octet that is found in place of another one stands in front of whatever the cut has taken away.  So with
the rest of the script behind it the same place fails in the same way (`Place.Halts.followedBy`), as long as
the rest is not read into the word in front of the call; and it cannot be, since that word has ended within
the front.  The other errors have no such permanence: a word may go on behind the cut, a script that has
ended may continue, and what follows the semicolon may be completed to the word that ends the script.
-/

namespace FlightScript.Script

variable {test : UInt8 → Bool} {octets more : Bytes}

/-! ## More octets behind a cursor -/

lemma Stops.append (h : Stops test octets) (hne : octets ≠ []) (more : Bytes) :
    Stops test (octets ++ more) := by
  cases octets with
  | nil => exact absurd rfl hne
  | cons b octets => exact stops_cons.2 (stops_cons.1 h)

namespace Cursor

/-- The same place in a longer script. -/
def followedBy (cursor : Cursor) (more : Bytes) : Cursor :=
  ⟨cursor.offset, cursor.rest ++ more⟩

lemma Passes.followedBy {cursor after : Cursor} (h : cursor.Passes octets after) (more : Bytes) :
    (cursor.followedBy more).Passes octets (after.followedBy more) := by
  refine ⟨?_, h.2⟩
  simp [Cursor.followedBy, h.1]

end Cursor

namespace Place

variable {place : Place} {cursor : Cursor} {expected found : UInt8} {offset : Nat}

/-- A place that fails for what stands there fails whatever follows. -/
lemma Fails.followedBy (h : place.Fails cursor (.unexpectedByte expected found offset)) (more : Bytes) :
    cursor.rest ≠ [] ∧ place.Fails (cursor.followedBy more) (.unexpectedByte expected found offset) := by
  cases h with
  | @misplaced _ hmark blanks _ behind hrest hblank hfound hcomma =>
    refine ⟨by simp [hrest], ?_⟩
    have hrest' : (cursor.followedBy more).rest = blanks.octets ++ found :: (behind ++ more) := by
      simp [Cursor.followedBy, hrest]
    exact .misplaced hmark blanks hrest' hblank hfound hcomma

/-- So is a call that is refused for what stands at one of its places. -/
lemma Halts.followedBy (h : place.Halts cursor (.unexpectedByte expected found offset)) (more : Bytes) :
    cursor.rest ≠ [] ∧ place.Halts (cursor.followedBy more) (.unexpectedByte expected found offset) := by
  obtain ⟨octets, last, after, hreaches, hpass, hfails⟩ := h
  obtain ⟨hne, hfails'⟩ := hfails.followedBy more
  refine ⟨?_, octets, last, _, hreaches, hpass.followedBy more, hfails'⟩
  rw [hpass.1]
  exact List.append_ne_nil_of_right_ne_nil _ hne

end Place

/-- **What is found in place of an expected octet is found in every longer script.** -/
lemma Statement.read_append_of_unexpectedByte {front : Bytes} {expected found : UInt8} {offset : Nat}
    (h : read front = .error (.unexpectedByte expected found offset)) (more : Bytes) :
    read (front ++ more) = .error (.unexpectedByte expected found offset) := by
  obtain ⟨lead, word, after, hhash, hpass, hapart, hhalts⟩ := (read_eq_error_iff rfl).1 h
  obtain ⟨hne, hhalts'⟩ := hhalts.followedBy more
  exact (read_eq_error_iff rfl).2
    ⟨lead, word, _, hhash, hpass.followedBy more, hapart.append hne more, hhalts'⟩

/-! ## Two layouts, one in front of the other -/

/-- A script that begins with another one has the same call. -/
lemma Layout.call_eq_of_prefix {layout whole : Layout} (h : layout.octets <+: whole.octets) :
    layout.call = whole.call := by
  obtain ⟨more, h⟩ := h
  simp only [Layout.octets, List.append_assoc] at h
  obtain ⟨-, h⟩ := Run.append_inj (Letters.stops_append layout.hash_word _)
    (Letters.stops_append whole.hash_word _) h
  obtain ⟨-, h⟩ := Run.append_inj (Call.stops_octets_append _ _) (Call.stops_octets_append _ _) h
  exact (Call.append_inj h).1

/-- **Cutting a script never changes what it runs.**  If a script is accepted and a front of it is accepted
of the same registry, with the same copies left, both are one statement around a copy of the same
prototype with the same argument, and they have taken the same copy.  If the front is refused for an octet
that stands in place of another one, the whole script is refused for that octet too, at the same place. -/
theorem cut_runs_the_same (text : Bytes) (registry : Registry) (allowances : Allowances) (cut : Nat) :
    (∀ tree whole left left',
      parse (text.take cut) registry allowances = (.ok tree, left) →
      parse text registry allowances = (.ok whole, left') →
        ∃ (name : Bytes) (second : Option Bytes) (prototype clone : Command),
          registry.resolve name = some prototype ∧
          prototype.copy? allowances = some (clone, left) ∧ left' = left ∧
          tree = .statement (.invocation
            { clone with argument := argumentFor second prototype.argument }) ∧
          whole = tree) ∧
    ∀ expected found offset,
      (parse (text.take cut) registry allowances).1 = .error (.unexpectedByte expected found offset) →
        parse text registry allowances = (.error (.unexpectedByte expected found offset), allowances) := by
  constructor
  · intro tree whole left left' hcut hwhole
    obtain ⟨layout, prototype, clone, hoctets, hresolve, hcopy, htree⟩ :=
      parse_eq_ok_iff_exists_layout.1 hcut
    obtain ⟨layout', prototype', clone', hoctets', hresolve', hcopy', htree'⟩ :=
      parse_eq_ok_iff_exists_layout.1 hwhole
    have hprefix : layout.octets <+: layout'.octets := by
      rw [hoctets, hoctets']
      exact List.take_prefix cut text
    have hcall := Layout.call_eq_of_prefix hprefix
    have hname : layout'.name = layout.name := by rw [Layout.name, Layout.name, hcall]
    have hsecond : layout'.second? = layout.second? := by rw [Layout.second?, Layout.second?, hcall]
    rw [hname, hresolve] at hresolve'
    cases hresolve'
    rw [hcopy] at hcopy'
    cases hcopy'
    rw [hsecond, ← htree] at htree'
    exact ⟨layout.name, layout.second?, prototype, clone, hresolve, hcopy, rfl, htree, htree'⟩
  · intro expected found offset h
    have hread := (parse_eq_error_iff_read rfl).1 h
    have hlonger := Statement.read_append_of_unexpectedByte hread (text.drop cut)
    rw [List.take_append_drop] at hlonger
    exact parse_of_read_error hlonger registry allowances

/-- A registry that knows a command by the name of ping, with one copy left of it. -/
def onePing : Registry × Allowances :=
  ({ prototypes := [(Bytes.ofString "ping",
      { kind := 1, behavior := { start := fun _ => .never, copying := .rationed 0 } })] },
    { remaining := [1] })

/-- A script that is cut in front of the word that ends it takes the one copy that is left all the same;
and one that lacks its quotes is refused for the first letter of its name, however much of it there is. -/
theorem cut_runs_the_same_in_front_of_end :
    (∃ tree, parse ((Bytes.ofString "INVOKE(\"ping\",\"on\"); SCRIPT_END").take 21) onePing.1 onePing.2 =
        (.ok tree, { remaining := [0] }) ∧
      parse (Bytes.ofString "INVOKE(\"ping\",\"on\"); SCRIPT_END") onePing.1 onePing.2 =
        (.ok tree, { remaining := [0] })) ∧
    (parse ((Bytes.ofString "INVOKE( ping);").take 9) onePing.1 onePing.2).1 =
        .error (.unexpectedByte Cursor.quoteMark 0x70 8) ∧
      parse (Bytes.ofString "INVOKE( ping);") onePing.1 onePing.2 =
        (.error (.unexpectedByte Cursor.quoteMark 0x70 8), onePing.2) := by
  obtain ⟨tree, hcut⟩ : ∃ tree, parse ((Bytes.ofString "INVOKE(\"ping\",\"on\"); SCRIPT_END").take 21)
      onePing.1 onePing.2 = (.ok tree, { remaining := [0] }) := ⟨_, rfl⟩
  obtain ⟨whole, hwhole⟩ : ∃ whole, parse (Bytes.ofString "INVOKE(\"ping\",\"on\"); SCRIPT_END")
      onePing.1 onePing.2 = (.ok whole, { remaining := [0] }) := ⟨_, rfl⟩
  have hrefused : (parse ((Bytes.ofString "INVOKE( ping);").take 9) onePing.1 onePing.2).1 =
      .error (.unexpectedByte Cursor.quoteMark 0x70 8) := rfl
  obtain ⟨_, _, _, _, -, -, -, -, rfl⟩ := (cut_runs_the_same _ _ _ 21).1 _ _ _ _ hcut hwhole
  exact ⟨⟨_, hcut, hwhole⟩, hrefused, (cut_runs_the_same _ _ _ 9).2 _ _ _ hrefused⟩

end FlightScript.Script
