import Mathlib.Data.List.Basic
import TransportStack.Net.HostPort
import TransportStack.Proofs.Net.IpText

/-!
Addresses in the form `ip[:port]`. Every IP address is found with every port after it. Without a
port the last colon of an address of eight groups counts as the beginning of one, unless it is part
of a double colon: such an address is found exactly when at most one group follows its double colon.
-/

namespace TransportStack

open TransportStack.Text

/-- The text of an IP address before a port; one of eight groups stands in brackets. -/
def Ip.hostText : Ip → String
  | .v4 ip => ip.render
  | .v6 ip => "[" ++ ip.render ++ "]"

namespace Ipv6

/-- Whether the text has a double colon. -/
def hasGap (ip : Ipv6) : Bool := ip.mapped?.isSome || 1 < (zeroRun ip.groups).2

/-- Whether the text has a double colon with at most one group after it. -/
def endsAtGap (ip : Ipv6) : Bool :=
  ip.mapped?.isNone && 1 < (zeroRun ip.groups).2 &&
    7 ≤ (zeroRun ip.groups).1 + (zeroRun ip.groups).2

end Ipv6

/-- Whether an address is found without a port. -/
def Ip.standsAlone : Ip → Bool
  | .v4 _ => true
  | .v6 ip => ip.endsAtGap

/-- An address of an IP address and a port in the form that a transport has: that of a socket for
`tcp` and `udp`, and the text with the port for all others. -/
structure Address.Locates (a : Address) (transport text : String) (ip : Ip) (port : UInt16) :
    Prop where
  network : a.network = transport
  socket : transport = "tcp" ∨ transport = "udp" → a = .socket transport (.ofIp ip port)
  named : ¬(transport = "tcp" ∨ transport = "udp") →
    a = .named transport text port ∧ a.render = text

private theorem dropWhile_of_notMem {c : Char} {cs : List Char} (absent : c ∉ cs) :
    cs.dropWhile (· == c) = cs := by
  cases cs with
  | nil => rfl
  | cons d cs =>
      rw [List.mem_cons, not_or] at absent
      exact List.dropWhile_cons_of_neg fun same => absent.1 (beq_iff_eq.1 same).symm

private theorem notMem_reverse {c : Char} {cs : List Char} (absent : c ∉ cs) : c ∉ cs.reverse :=
  fun h => absent (List.mem_reverse.1 h)

theorem dropBrackets_cons (cs : List Char) : dropBrackets ('[' :: cs) = dropBrackets cs := by
  rw [dropBrackets, List.dropWhile_cons_of_pos (by decide)]
  rfl

section

variable {cs : List Char} (opened : '[' ∉ cs) (closed : ']' ∉ cs)
include opened closed

theorem dropBrackets_of_notMem : dropBrackets cs = cs := by
  rw [dropBrackets, dropWhile_of_notMem opened, dropBrackets.dropEnd,
    dropWhile_of_notMem (notMem_reverse closed), List.reverse_reverse]

theorem dropBrackets_concat : dropBrackets (cs ++ [']']) = cs := by
  have opened' : '[' ∉ cs ++ [']'] := by simpa using opened
  rw [dropBrackets, dropWhile_of_notMem opened', dropBrackets.dropEnd, List.reverse_append,
    List.reverse_singleton, List.singleton_append, List.dropWhile_cons_of_pos (by decide),
    dropWhile_of_notMem (notMem_reverse closed), List.reverse_reverse]

end

theorem splitPort_of_notMem {cs : List Char} (colon : ':' ∉ cs) : splitPort cs = (cs, ['0']) := by
  rw [splitPort, cutLast_eq_none colon]

theorem splitPort_append {host port : List Char} (last : ':' ∉ port)
    (single : host.getLast? ≠ some ':') : splitPort (host ++ ':' :: port) = (host, port) := by
  rw [splitPort, cutLast_append host last]
  exact if_neg single

theorem splitPort_double {front back : List Char} (last : ':' ∉ back) :
    splitPort (front ++ ':' :: ':' :: back) = (front ++ ':' :: ':' :: back, ['0']) := by
  have cut : cutLast ':' (front ++ ':' :: ':' :: back) = some (front ++ [':'], back) := by
    rw [← cutLast_append (front ++ [':']) last, List.append_assoc]
    rfl
  rw [splitPort, cut]
  exact if_pos List.getLast?_concat

section

variable {transport text : String} {host port : List Char}

theorem ofHostPort_of_read (split : splitPort text.toList = (host, port)) {ip : Ip}
    (reads : Ip.read? (dropBrackets host) = some ip) {number : UInt16}
    (numbers : Width.port.readNat? (String.ofList port) = some number.toNat) :
    ∃ a, Address.ofHostPort transport text = .ok a ∧ a.Locates transport text ip number := by
  have back : number.toNat.toUInt16 = number := UInt16.ofNat_toNat
  unfold Address.ofHostPort
  simp only [split, reads, numbers, back]
  split
  · rename_i own
    exact ⟨_, rfl, rfl, fun _ => rfl, fun other => absurd own other⟩
  · rename_i other
    exact ⟨_, rfl, rfl, fun own => absurd own other, fun _ => ⟨rfl, rfl⟩⟩

theorem ofHostPort_of_unread (split : splitPort text.toList = (host, port))
    (unread : Ip.read? (dropBrackets host) = none) :
    Address.ofHostPort transport text =
      .error (.invalidAddress ("invalid ip address: " ++ text)) := by
  unfold Address.ofHostPort
  simp only [split, unread]

theorem ofHostPort_of_misnumbered (split : splitPort text.toList = (host, port)) {ip : Ip}
    (reads : Ip.read? (dropBrackets host) = some ip)
    (misnumbered : Width.port.readNat? (String.ofList port) = none) :
    Address.ofHostPort transport text = .error (.invalidAddress ("invalid port: " ++ text)) := by
  unfold Address.ofHostPort
  simp only [split, reads, misnumbered]

end

namespace Ipv6

/-- A row ends in a digit. -/
theorem getLast?_append_row (front : List Char) {gs : List UInt16} (some_left : gs ≠ []) :
    (front ++ row gs).getLast? ≠ some ':' := by
  have digits (front : List Char) (g : UInt16) :
      (front ++ Nat.toDigits 16 g.toNat).getLast? ≠ some ':' := by
    rw [List.getLast?_append_of_ne_nil _ Nat.toDigits_ne_nil]
    exact fun last => colon_notMem_digits g (List.mem_of_getLast? last)
  obtain rfl | ⟨gs, g, rfl⟩ := gs.eq_nil_or_concat
  · exact absurd rfl some_left
  · rw [List.concat_eq_append]
    cases gs with
    | nil => exact digits front g
    | cons h gs =>
        rw [row_concat (List.cons_ne_nil h gs), ← List.append_assoc, List.append_cons]
        exact digits _ g

theorem isSome_ofGroups? (gs : List UInt16) : (ofGroups? gs).isSome = decide (gs.length = 8) := by
  unfold ofGroups?
  split <;> rename_i eight <;> simp [eight]

namespace Written

variable {ip : Ipv6} {text : List Char}

/-- A text with at most one group after its double colon has no other colon after it. -/
theorem doubled (h : Written ip text) (ends : ip.endsAtGap = true) :
    ∃ front back, text = front ++ ':' :: ':' :: back ∧ ':' ∉ back := by
  simp only [endsAtGap, Bool.and_eq_true, decide_eq_true_eq] at ends
  cases h with
  | dotted v4 mapped => simp [mapped] at ends
  | short front back gap plain run wide groups =>
      have length := congrArg List.length groups
      simp only [List.length_append, List.length_replicate, ip.eight] at length
      simp only [run] at ends
      refine ⟨row front, row back, rfl, ?_⟩
      match back with
      | [] => exact List.not_mem_nil
      | [g] => exact colon_notMem_digits g
      | g :: g' :: back =>
          simp only [List.length_cons] at length
          omega
  | full plain narrow => exact absurd ends.1.2 narrow

/-- Any other text is cut at a single colon, and what comes before it is an address if the text has
a double colon. -/
theorem cut (h : Written ip text) (goes_on : ip.endsAtGap = false) :
    ∃ front back, text = front ++ ':' :: back ∧ ':' ∉ back ∧ front.getLast? ≠ some ':' ∧
      (Ip.read? front).isSome = ip.hasGap := by
  cases h with
  | dotted v4 mapped =>
      refine ⟨row [] ++ ':' :: ':' :: row [0xffff], v4.render.toList, rfl,
        Ipv4.notMem_render (by decide) (by decide), by decide, ?_⟩
      rw [Ip.read?_of_colon (by decide), read?_double (by decide), hasGap, mapped]
      rfl
  | short front back gap plain run wide groups =>
      have length := congrArg List.length groups
      simp only [List.length_append, List.length_replicate, ip.eight] at length
      have follows : 7 > front.length + gap := by
        simpa [endsAtGap, plain, run, wide] using goes_on
      obtain rfl | ⟨gs, g, rfl⟩ := back.eq_nil_or_concat
      · simp at length
        omega
      · rw [List.concat_eq_append, List.length_append, List.length_singleton] at length
        have some_left : gs ≠ [] := by
          rintro rfl
          simp at length
          omega
        refine ⟨row front ++ ':' :: ':' :: row gs, Nat.toDigits 16 g.toNat, ?_,
          colon_notMem_digits g, ?_, ?_⟩
        · rw [List.concat_eq_append, row_concat some_left]
          simp
        · have last := getLast?_append_row (row front ++ [':', ':']) some_left
          rwa [List.append_assoc] at last
        · rw [Ip.read?_of_colon (by simp), read?_double (by omega), Option.isSome_map,
            isSome_ofGroups?, hasGap, plain, run]
          simp [wide]
          omega
  | full plain narrow =>
      have eight := ip.eight
      obtain none_left | ⟨gs, g, groups⟩ := ip.groups.eq_nil_or_concat
      · simp [none_left] at eight
      · rw [List.concat_eq_append] at groups
        rw [groups, List.length_append, List.length_singleton] at eight
        have some_left : gs ≠ [] := by
          rintro rfl
          simp at eight
        refine ⟨row gs, Nat.toDigits 16 g.toNat, ?_, colon_notMem_digits g,
          getLast?_append_row [] some_left, ?_⟩
        · rw [groups, row_concat some_left]
        · rw [Ip.read?_of_colon (colon_mem_row (by omega)), read?_row, Option.isSome_map,
            isSome_ofGroups?, hasGap, plain, decide_eq_false narrow]
          simp
          omega

end Written

theorem toList_hostText (ip : Ipv6) :
    (Ip.v6 ip).hostText.toList = '[' :: (ip.render.toList ++ [']']) := by
  simp [Ip.hostText]

theorem dropBrackets_hostText (ip : Ipv6) :
    dropBrackets (Ip.v6 ip).hostText.toList = ip.render.toList := by
  have absent {c : Char} := ip.written_render.notMem (c := c)
  rw [toList_hostText, dropBrackets_cons]
  exact dropBrackets_concat (absent (by decide) (by decide) (by decide))
    (absent (by decide) (by decide) (by decide))

end Ipv6

theorem Ipv4.dropBrackets_render (ip : Ipv4) :
    dropBrackets ip.render.toList = ip.render.toList :=
  dropBrackets_of_notMem (notMem_render (by decide) (by decide))
    (notMem_render (by decide) (by decide))

section

variable (transport : String)

theorem readNat?_port (port : UInt16) :
    Width.port.readNat? (toString port.toNat) = some port.toNat := by
  refine readNat?_toString ?_
  have small := UInt16.toNat_lt port
  simp only [Width.holds, Width.low, Width.high, Width.port, Bool.and_eq_true]
  exact ⟨by simp, by simp; omega⟩

/-- Every IP address is found with every port after it. -/
theorem ofHostPort_with_port (ip : Ip) (port : UInt16) :
    ∃ a, Address.ofHostPort transport (ip.hostText ++ ":" ++ toString port.toNat) = .ok a ∧
      a.Locates transport (ip.hostText ++ ":" ++ toString port.toNat) ip port := by
  have no_colon : ':' ∉ (toString port.toNat).toList := by
    rw [Nat.toString_eq_repr, Nat.toList_repr]
    exact notMem_toDigits (by decide) (by decide)
  have text : (ip.hostText ++ ":" ++ toString port.toNat).toList =
      ip.hostText.toList ++ ':' :: (toString port.toNat).toList := by
    simp
  have numbers : Width.port.readNat? (String.ofList (toString port.toNat).toList) =
      some port.toNat := by
    rw [String.ofList_toList, readNat?_port]
  have host : ip.hostText.toList.getLast? ≠ some ':' ∧
      dropBrackets ip.hostText.toList = ip.render.toList := by
    cases ip with
    | v4 ip =>
        have plain : ':' ∉ ip.render.toList := Ipv4.notMem_render (by decide) (by decide)
        exact ⟨fun last => plain (List.mem_of_getLast? last), ip.dropBrackets_render⟩
    | v6 ip =>
        refine ⟨?_, ip.dropBrackets_hostText⟩
        rw [ip.toList_hostText, ← List.cons_append, List.getLast?_concat]
        decide
  refine ofHostPort_of_read ?_ (host.2 ▸ ip.read?_render) numbers
  rw [text, splitPort_append no_colon host.1]

theorem readNat?_no_port : Width.port.readNat? (String.ofList ['0']) = some (0 : UInt16).toNat := by
  decide

theorem ofHostPort_without_port {ip : Ip} (alone : ip.standsAlone = true) :
    ∃ a, Address.ofHostPort transport ip.hostText = .ok a ∧
      a.Locates transport ip.hostText ip 0 := by
  cases ip with
  | v4 ip =>
      have reads := (Ip.v4 ip).read?_render
      rw [Ip.render, ← ip.dropBrackets_render] at reads
      exact ofHostPort_of_read (splitPort_of_notMem (Ipv4.notMem_render (by decide) (by decide)))
        reads readNat?_no_port
  | v6 ip =>
      obtain ⟨front, back, text, last⟩ := ip.written_render.doubled alone
      have reads := (Ip.v6 ip).read?_render
      rw [Ip.render, ← ip.dropBrackets_hostText] at reads
      have shape : (Ip.v6 ip).hostText.toList = ('[' :: front) ++ ':' :: ':' :: (back ++ [']']) := by
        rw [ip.toList_hostText, text]
        simp
      have split : splitPort (Ip.v6 ip).hostText.toList = ((Ip.v6 ip).hostText.toList, ['0']) := by
        rw [shape]
        exact splitPort_double (by simpa using last)
      exact ofHostPort_of_read split reads readNat?_no_port

/-- Without a port, the last group of an address is taken for one when another group or the digits
of a mapped address come before it. -/
theorem ofHostPort_refused {ip : Ipv6} (goes_on : ip.endsAtGap = false) :
    Address.ofHostPort transport (Ip.v6 ip).hostText =
      .error (.invalidAddress
        ((if ip.hasGap then "invalid port: " else "invalid ip address: ") ++
          (Ip.v6 ip).hostText)) := by
  obtain ⟨front, back, text, last, single, reads⟩ := ip.written_render.cut goes_on
  have shape : (Ip.v6 ip).hostText.toList = ('[' :: front) ++ ':' :: (back ++ [']']) := by
    rw [ip.toList_hostText, text]
    simp
  have opened : ('[' :: front).getLast? ≠ some ':' := by
    rw [List.getLast?_cons, Ne, Option.some.injEq]
    intro colon
    cases final : front.getLast? with
    | none => simp [final] at colon
    | some c => exact single (by simpa [final] using colon)
  have split : splitPort (Ip.v6 ip).hostText.toList = ('[' :: front, back ++ [']']) :=
    shape ▸ splitPort_append (by simpa using last) opened
  have plain {c : Char} (absent : c ∉ ip.render.toList) : c ∉ front :=
    fun h => absent (text ▸ List.mem_append_left _ h)
  have host : dropBrackets ('[' :: front) = front := by
    rw [dropBrackets_cons]
    refine dropBrackets_of_notMem (plain ?_) (plain ?_)
    · exact ip.written_render.notMem (by decide) (by decide) (by decide)
    · exact ip.written_render.notMem (by decide) (by decide) (by decide)
  cases gap : ip.hasGap with
  | true =>
      obtain ⟨other, read⟩ := Option.isSome_iff_exists.1 (reads.trans gap)
      refine ofHostPort_of_misnumbered split (host.symm ▸ read) ?_
      exact readNat?_eq_none (c := ']') (by simp) (by decide) (by decide)
  | false =>
      refine ofHostPort_of_unread split ?_
      rw [host, ← Option.not_isSome_iff_eq_none, reads, gap]
      decide

/-- Every IP address is found with every port after it. Without a port it is found as well, with
port zero, unless it has eight groups and there is a single colon after its double colon or no double
colon: then the last group is taken for a port, and the address is refused. -/
theorem ofHostPort_found_iff (ip : Ip) (port : UInt16) :
    (∃ a, Address.ofHostPort transport (ip.hostText ++ ":" ++ toString port.toNat) = .ok a ∧
      a.Locates transport (ip.hostText ++ ":" ++ toString port.toNat) ip port) ∧
    ((∃ a, Address.ofHostPort transport ip.hostText = .ok a ∧
      a.Locates transport ip.hostText ip 0) ↔ ip.standsAlone = true) ∧
    ∀ v6 : Ipv6, ip = .v6 v6 → v6.endsAtGap = false →
      Address.ofHostPort transport ip.hostText =
        .error (.invalidAddress
          ((if v6.hasGap then "invalid port: " else "invalid ip address: ") ++ ip.hostText)) := by
  refine ⟨ofHostPort_with_port transport ip port, ⟨?_, ofHostPort_without_port transport⟩, ?_⟩
  · rintro ⟨a, found, -⟩
    cases ip with
    | v4 ip => rfl
    | v6 ip =>
        rw [Ip.standsAlone, ← Bool.not_eq_false]
        intro goes_on
        rw [ofHostPort_refused transport goes_on] at found
        cases found
  · rintro v6 rfl goes_on
    exact ofHostPort_refused transport goes_on

/-- An address of eight groups that is refused without a port, though it is found with the port
zero. -/
theorem portless_address_refused :
    (Ip.v6 ⟨[0x2001, 0xdb8, 0, 0, 0, 0, 1, 1], rfl⟩).hostText = "[2001:db8::1:1]" ∧
    Address.ofHostPort "tcp" "[2001:db8::1:1]" =
      .error (.invalidAddress "invalid port: [2001:db8::1:1]") ∧
    Address.ofHostPort "tcp" "[2001:db8::1:1]:0" =
      .ok (.socket "tcp" (.ofIp (.v6 ⟨[0x2001, 0xdb8, 0, 0, 0, 0, 1, 1], rfl⟩) 0)) := by
  refine ⟨?_, ?_, ?_⟩
  all_goals decide +kernel

end

end TransportStack
