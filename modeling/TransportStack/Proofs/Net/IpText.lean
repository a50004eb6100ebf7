import Mathlib.Data.List.TakeWhile
import TransportStack.Proofs.Text.Numerals
import TransportStack.Proofs.Text.Pieces

/-!
The standard texts of IP addresses read back as the addresses. A text of eight groups is of one of
three kinds: it ends in dots, it has a double colon for its longest run of zeros, or it has all its
groups.
-/

namespace TransportStack

open TransportStack.Text

theorem readByte?_toDigits (b : UInt8) : readByte? (Nat.toDigits 10 b.toNat) = some b := by
  unfold readByte?
  split
  · rename_i c cs digits
    exfalso
    obtain zero | positive := Nat.eq_zero_or_pos b.toNat
    · rw [zero] at digits
      cases digits
    · have head := head?_toDigits_ne_zero (b := 10) (by decide) (by decide) positive
      rw [digits] at head
      exact head rfl
  · rw [readNatural?_toDigits, Option.bind_some, if_pos (UInt8.toNat_lt b)]
    exact congrArg some UInt8.ofNat_toNat

theorem readByte?_eq_none {c : Char} {cs : List Char} (h : c ∈ cs) (digit : digit? c = none) :
    readByte? cs = none := by
  unfold readByte?
  split
  · rfl
  · rw [readNatural?_eq_none h digit]
    rfl

namespace Ipv4

/-- The four numbers of an address, in decimal. -/
def numerals (ip : Ipv4) : List (List Char) :=
  [ip.a, ip.b, ip.c, ip.d].map fun b => Nat.toDigits 10 b.toNat

theorem toList_render (ip : Ipv4) : ip.render.toList = joinPieces '.' ip.numerals := by
  simp [render, numerals, joinPieces, Nat.toString_eq_repr, Nat.toList_repr]

theorem notMem_numerals {ip : Ipv4} {c : Char} (digit : ∀ d < 10, c ≠ Nat.digitChar d) :
    ∀ p ∈ ip.numerals, c ∉ p := by
  intro p hp
  obtain ⟨b, -, rfl⟩ := List.mem_map.1 hp
  exact notMem_toDigits (by decide) digit

/-- The characters of an address are digits and dots. -/
theorem notMem_render {ip : Ipv4} {c : Char} (dot : c ≠ '.')
    (digit : ∀ d < 10, c ≠ Nat.digitChar d) : c ∉ ip.render.toList := by
  rw [toList_render]
  exact notMem_joinPieces dot (notMem_numerals digit)

theorem read?_render (ip : Ipv4) : read? ip.render.toList = some ip := by
  have bytes : ip.numerals.map readByte? = [some ip.a, some ip.b, some ip.c, some ip.d] := by
    simp only [numerals, List.map_cons, List.map_nil, readByte?_toDigits]
  have some_left : ip.numerals ≠ [] := List.cons_ne_nil _ _
  rw [read?, toList_render, pieces_joinPieces some_left (notMem_numerals (by decide)), bytes]

/-- A colon does not stand in an address of four numbers. -/
theorem read?_eq_none {cs : List Char} (colon : ':' ∈ cs) : read? cs = none := by
  obtain ⟨p, hp, hc⟩ : ∃ p ∈ pieces '.' cs, ':' ∈ p := mem_pieces colon (by decide)
  have unread : none ∈ (pieces '.' cs).map readByte? :=
    List.mem_map.2 ⟨p, hp, readByte?_eq_none hc (by decide)⟩
  unfold read?
  split
  · rename_i all
    rw [all] at unread
    simp at unread
  · rfl

end Ipv4

namespace Ipv6

/-- Groups in hexadecimal with colons between them. -/
def row (gs : List UInt16) : List Char :=
  joinPieces ':' (gs.map fun g => Nat.toDigits 16 g.toNat)

theorem toList_renderGroups (gs : List UInt16) : (renderGroups gs).toList = row gs := by
  rw [renderGroups, String.toList_intercalate, row, joinPieces_eq_intercalate, List.map_map]
  refine congrArg (List.intercalate [':']) (List.map_congr_left fun g _ => ?_)
  exact String.toList_ofList

theorem colon_notMem_digits (g : UInt16) : ':' ∉ Nat.toDigits 16 g.toNat :=
  notMem_toDigits (by decide) (by decide)

theorem row_cons (g h : UInt16) (gs : List UInt16) :
    row (g :: h :: gs) = Nat.toDigits 16 g.toNat ++ ':' :: row (h :: gs) := rfl

theorem row_concat {gs : List UInt16} (some_left : gs ≠ []) (g : UInt16) :
    row (gs ++ [g]) = row gs ++ ':' :: Nat.toDigits 16 g.toNat := by
  rw [row, List.map_append, List.map_singleton,
    joinPieces_concat (fun none_left => some_left (List.map_eq_nil_iff.1 none_left))]
  rfl

/-- The characters of a row are hexadecimal digits and colons. -/
theorem notMem_row {gs : List UInt16} {c : Char} (colon : c ≠ ':')
    (digit : ∀ d < 16, c ≠ Nat.digitChar d) : c ∉ row gs := by
  refine notMem_joinPieces colon fun p hp => ?_
  obtain ⟨g, -, rfl⟩ := List.mem_map.1 hp
  exact notMem_toDigits (by decide) digit

/-- A row begins with a digit. -/
theorem exists_row_eq_cons (g : UInt16) (gs : List UInt16) :
    ∃ c cs, row (g :: gs) = c :: cs ∧ c ≠ ':' := by
  cases digits : Nat.toDigits 16 g.toNat with
  | nil => exact absurd digits Nat.toDigits_ne_nil
  | cons c cs =>
      have plain : c ≠ ':' := by
        rintro rfl
        exact colon_notMem_digits g (digits ▸ List.mem_cons_self)
      cases gs with
      | nil => exact ⟨c, cs, digits, plain⟩
      | cons h gs => exact ⟨c, cs ++ ':' :: row (h :: gs), by rw [row_cons, digits]; rfl, plain⟩

theorem readGroup?_toDigits (g : UInt16) : readGroup? (Nat.toDigits 16 g.toNat) = some g := by
  have short : (Nat.toDigits 16 g.toNat).length ≤ 4 :=
    (Nat.length_toDigits_le_iff (by decide) (by decide)).2 (UInt16.toNat_lt g)
  have filled : (Nat.toDigits 16 g.toNat).isEmpty = false :=
    List.isEmpty_eq_false_iff.2 Nat.toDigits_ne_nil
  rw [readGroup?, filled, Bool.false_or, decide_eq_false (by omega), if_neg (by decide),
    readHex_toDigits]
  exact congrArg some UInt16.ofNat_toNat

theorem readPieces?_digits (dotted : Bool) (gs : List UInt16) :
    readPieces? dotted (gs.map fun g => Nat.toDigits 16 g.toNat) = some gs := by
  induction gs with
  | nil => rfl
  | cons g gs ih =>
      cases gs with
      | nil => simp [readPieces?, readGroup?_toDigits]
      | cons h gs =>
          rw [List.map_cons] at ih
          simp [readPieces?, readGroup?_toDigits, ih]

theorem readRow?_row (dotted : Bool) (gs : List UInt16) : readRow? dotted (row gs) = some gs := by
  cases gs with
  | nil => rfl
  | cons g gs =>
      obtain ⟨c, cs, text, -⟩ := exists_row_eq_cons g gs
      have whole : ∀ p ∈ (g :: gs).map fun g => Nat.toDigits 16 g.toNat, ':' ∉ p := by
        intro p hp
        obtain ⟨g, -, rfl⟩ := List.mem_map.1 hp
        exact colon_notMem_digits g
      have some_left : ((g :: gs).map fun g => Nat.toDigits 16 g.toNat) ≠ [] := List.cons_ne_nil _ _
      rw [readRow?, text, List.isEmpty_cons, if_neg (by decide), ← text, row,
        pieces_joinPieces some_left whole, readPieces?_digits]

theorem cutDouble_append {p : List Char} (whole : ':' ∉ p) (cs : List Char) :
    cutDouble (p ++ cs) = (cutDouble cs).map fun r => (p ++ r.1, r.2) := by
  induction p with
  | nil => simp
  | cons c p ih =>
      rw [List.mem_cons, not_or] at whole
      rw [List.cons_append, cutDouble, ih whole.2, Option.map_map]
      · rfl
      · rintro _ rfl
        exact absurd rfl whole.1

/-- No double colon begins within a row. -/
theorem cutDouble_row_append (gs : List UInt16) (cs : List Char) :
    cutDouble (row gs ++ cs) = (cutDouble cs).map fun r => (row gs ++ r.1, r.2) := by
  induction gs with
  | nil => simp [row, joinPieces]
  | cons g gs ih =>
      cases gs with
      | nil => exact cutDouble_append (colon_notMem_digits g) cs
      | cons h gs =>
          obtain ⟨c, rest, text, plain⟩ := exists_row_eq_cons h gs
          have step : cutDouble (':' :: (row (h :: gs) ++ cs)) =
              (cutDouble (row (h :: gs) ++ cs)).map fun r => (':' :: r.1, r.2) := by
            rw [text, List.cons_append, cutDouble]
            rintro _ - same
            exact plain (List.cons.inj same).1
          rw [row_cons, List.append_assoc, cutDouble_append (colon_notMem_digits g),
            List.cons_append, step, ih, Option.map_map, Option.map_map]
          simp only [Function.comp_def, List.append_assoc, List.cons_append]

theorem read?_row (gs : List UInt16) : read? (row gs) = ofGroups? gs := by
  have uncut : cutDouble (row gs) = none := by
    have cut := cutDouble_row_append gs []
    rwa [List.append_nil] at cut
  rw [read?, uncut]
  simp only [readRow?_row, Option.bind_some]

theorem read?_double {front back : List UInt16} (few : front.length + back.length < 8) :
    read? (row front ++ ':' :: ':' :: row back) =
      ofGroups? (front ++ List.replicate (8 - (front.length + back.length)) 0 ++ back) := by
  have cut : cutDouble (row front ++ ':' :: ':' :: row back) = some (row front, row back) := by
    rw [cutDouble_row_append, cutDouble, Option.map_some, List.append_nil]
  rw [read?, cut]
  simp only [readRow?_row, Option.bind_eq_bind, Option.bind_some, if_pos few]

theorem ofGroups?_groups (ip : Ipv6) : ofGroups? ip.groups = some ip := dif_pos ip.eight

/-- Two bytes of a group make the group. -/
theorem joined_bytes (g : UInt16) :
    (g >>> 8).toUInt8.toUInt16 <<< 8 ||| g.toUInt8.toUInt16 = g := by
  refine UInt16.toNat_inj.1 ?_
  have small := UInt16.toNat_lt g
  have high : g.toNat >>> 8 % 256 = g.toNat / 256 := by
    rw [Nat.shiftRight_eq_div_pow]
    omega
  have low : g.toNat % 256 < 2 ^ 8 := Nat.mod_lt _ (by decide)
  have joined : (g.toNat / 256) <<< 8 % 65536 ||| g.toNat % 256 = g.toNat := by
    rw [Nat.shiftLeft_eq, Nat.mod_eq_of_lt (by omega), ← Nat.shiftLeft_eq,
      ← Nat.shiftLeft_add_eq_or_of_lt low, Nat.shiftLeft_eq]
    omega
  simpa [high] using joined

theorem groups_of_mapped? {ip : Ipv6} {v4 : Ipv4} (h : ip.mapped? = some v4) :
    ip.groups = [0, 0, 0, 0, 0, 0xffff] ++ ofIpv4 v4 := by
  unfold mapped? at h
  split at h
  · rename_i g h' groups
    cases h
    rw [groups, ofIpv4, joined_bytes, joined_bytes]
    rfl
  · cases h

/-- The longest run of zeros stands where it is said to stand. -/
theorem groups_eq_of_zeroRun (gs : List UInt16) :
    gs = gs.take (zeroRun gs).1 ++ List.replicate (zeroRun gs).2 0 ++
      gs.drop ((zeroRun gs).1 + (zeroRun gs).2) := by
  induction gs with
  | nil => rfl
  | cons g gs ih =>
      rw [zeroRun]
      split
      · have zeros : (g :: gs).take (leadingZeros (g :: gs)) =
            List.replicate (leadingZeros (g :: gs)) 0 := by
          have zero {x : UInt16} (hx : x ∈ (g :: gs).takeWhile (· == 0)) : (x == 0) = true :=
            List.mem_takeWhile_imp (p := (· == 0)) hx
          rw [leadingZeros, ← List.prefix_iff_eq_take.1 (List.takeWhile_prefix _)]
          exact List.eq_replicate_iff.2 ⟨rfl, fun x hx => beq_iff_eq.1 (zero hx)⟩
        simp only [List.take_zero, List.nil_append, Nat.zero_add]
        rw [← zeros, List.take_append_drop]
      · simp only [List.take_succ_cons, Nat.succ_add, List.drop_succ_cons, List.cons_append]
        exact congrArg (g :: ·) ih

/-- The kinds of texts that addresses of eight groups have. -/
inductive Written (ip : Ipv6) : List Char → Prop
  | dotted (v4 : Ipv4) (mapped : ip.mapped? = some v4) :
      Written ip (':' :: ':' :: (row [0xffff] ++ ':' :: v4.render.toList))
  | short (front back : List UInt16) (gap : Nat) (plain : ip.mapped? = none)
      (run : zeroRun ip.groups = (front.length, gap)) (wide : 1 < gap)
      (groups : ip.groups = front ++ List.replicate gap 0 ++ back) :
      Written ip (row front ++ ':' :: ':' :: row back)
  | full (plain : ip.mapped? = none) (narrow : ¬1 < (zeroRun ip.groups).2) :
      Written ip (row ip.groups)

theorem written_render (ip : Ipv6) : Written ip ip.render.toList := by
  unfold render
  cases mapped : ip.mapped? with
  | some v4 =>
      have start : "::ffff:".toList = ':' :: ':' :: (row [0xffff] ++ [':']) := by decide
      simp only [String.toList_append, start, List.cons_append, List.append_assoc, List.nil_append]
      exact .dotted v4 mapped
  | none =>
      simp only [renderShort]
      split
      · rename_i wide
        have groups := groups_eq_of_zeroRun ip.groups
        have length := congrArg List.length groups
        simp only [List.length_append, List.length_take, List.length_drop, List.length_replicate,
          ip.eight] at length
        rw [String.toList_append, String.toList_append, toList_renderGroups, toList_renderGroups,
          List.append_assoc]
        refine .short _ _ (zeroRun ip.groups).2 mapped (Prod.ext ?_ rfl) wide groups
        rw [List.length_take, ip.eight]
        omega
      · rename_i narrow
        rw [toList_renderGroups]
        exact .full mapped narrow

theorem colon_mem_row {gs : List UInt16} (several : 1 < gs.length) : ':' ∈ row gs := by
  match gs with
  | [] | [_] => simp at several
  | g :: h :: gs => simp [row_cons]

theorem readRow?_dotted (v4 : Ipv4) :
    readRow? true (row [0xffff] ++ ':' :: v4.render.toList) = some (0xffff :: ofIpv4 v4) := by
  have long : v4.render.toList.length > 4 := by
    have positive (n : Nat) : 0 < (Nat.toDigits 10 n).length := Nat.length_toDigits_pos
    have := positive v4.a.toNat
    have := positive v4.b.toNat
    have := positive v4.c.toNat
    have := positive v4.d.toNat
    simp only [Ipv4.toList_render, Ipv4.numerals, List.map_cons, List.map_nil, joinPieces,
      List.length_append, List.length_cons]
    omega
  have no_group : readGroup? v4.render.toList = none := by
    rw [readGroup?, decide_eq_true long, Bool.or_true, if_pos rfl]
  have no_colon : ':' ∉ v4.render.toList := Ipv4.notMem_render (by decide) (by decide)
  have first : readGroup? (row [0xffff]) = some 0xffff := readGroup?_toDigits 0xffff
  have start : row [0xffff] = ['f', 'f', 'f', 'f'] := by decide
  have filled : (row [0xffff] ++ ':' :: v4.render.toList).isEmpty = false := by simp
  rw [readRow?, filled, if_neg (by decide), pieces_append (by rw [start]; decide),
    pieces_of_notMem no_colon, readPieces?, first, readPieces?, no_group, if_pos rfl,
    Ipv4.read?_render]
  · rfl
  · exact List.cons_ne_nil _ _

namespace Written

variable {ip : Ipv6} {text : List Char} (h : Written ip text)
include h

theorem colon_mem : ':' ∈ text := by
  cases h with
  | dotted v4 mapped => exact List.mem_cons_self
  | short front back gap plain run wide groups =>
      exact List.mem_append_right _ List.mem_cons_self
  | full plain narrow => exact colon_mem_row (by rw [ip.eight]; decide)

/-- The characters of an address are colons, dots and hexadecimal digits. -/
theorem notMem {c : Char} (colon : c ≠ ':') (dot : c ≠ '.')
    (digit : ∀ d < 16, c ≠ Nat.digitChar d) : c ∉ text := by
  have no_row (gs : List UInt16) : c ∉ row gs := notMem_row colon digit
  cases h with
  | dotted v4 mapped =>
      have no_bytes : c ∉ v4.render.toList :=
        Ipv4.notMem_render dot fun d small => digit d (by omega)
      simp [colon, no_row, no_bytes]
  | short front back gap plain run wide groups => simp [colon, no_row]
  | full plain narrow => exact no_row ip.groups

theorem read? : Ipv6.read? text = some ip := by
  cases h with
  | dotted v4 mapped =>
      rw [Ipv6.read?, cutDouble]
      simp only [readRow?_dotted, Option.bind_eq_bind, Option.bind_some]
      rw [← ofGroups?_groups, groups_of_mapped? mapped]
      rfl
  | short front back gap plain run wide groups =>
      have length := congrArg List.length groups
      simp only [List.length_append, List.length_replicate, ip.eight] at length
      rw [read?_double (by omega), ← ofGroups?_groups, groups,
        show 8 - (front.length + back.length) = gap by omega]
  | full plain narrow => rw [read?_row, ofGroups?_groups]

end Written

end Ipv6

theorem Ip.read?_of_colon {cs : List Char} (colon : ':' ∈ cs) :
    Ip.read? cs = (Ipv6.read? cs).map .v6 := by
  rw [read?, Ipv4.read?_eq_none colon]

/-- The standard text of an IP address is read as the address. -/
theorem Ip.read?_render (ip : Ip) : Ip.read? ip.render.toList = some ip := by
  cases ip with
  | v4 ip => rw [read?, render, Ipv4.read?_render]
  | v6 ip =>
      rw [render, read?_of_colon ip.written_render.colon_mem, ip.written_render.read?]
      rfl

end TransportStack
