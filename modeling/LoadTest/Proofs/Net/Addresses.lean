import LoadTest.Net.Ipv6
import LoadTest.Proofs.Text.Numbers

/-!
# IP addresses read back

The dotted form of an IPv4 address and the compressed form of an IPv6 address are read as the
address that they were written from.

* `Ipv4.ofText?_write`
* `Ipv6.group?_hexGroup`     single groups
* `Ipv6.splitGap_writeGroups`   the first `::` of a text
* `Ipv6.groups?_writeGroups`   groups with colons between them
* `Ipv6.ofText?_write`
-/

namespace LoadTest

theorem Text.mem_intercalate {x c : Char} {parts : List (List Char)}
    (h : c ∈ [x].intercalate parts) : c = x ∨ ∃ part ∈ parts, c ∈ part := by
  induction parts with
  | nil => cases h
  | cons part parts ih =>
    cases parts with
    | nil =>
      rw [List.intercalate_singleton] at h
      exact .inr ⟨part, List.mem_cons_self, h⟩
    | cons next parts =>
      rw [List.intercalate_cons_cons, List.append_assoc, List.mem_append, List.mem_append] at h
      rcases h with h | h | h
      · exact .inr ⟨part, List.mem_cons_self, h⟩
      · exact .inl (List.mem_singleton.1 h)
      · rcases ih h with h | ⟨other, hother, h⟩
        · exact .inl h
        · exact .inr ⟨other, List.mem_cons_of_mem _ hother, h⟩

/-- a digit in base sixteen, in lower case -/
def Text.IsHexDigit (c : Char) : Prop := ∃ n < 16, c = Nat.digitChar n

theorem Text.IsHexDigit.of_all {p : Char → Prop} (h : ∀ n < 16, p (Nat.digitChar n)) {c : Char}
    (hc : IsHexDigit c) : p c := by
  obtain ⟨n, hn, rfl⟩ := hc
  exact h n hn

theorem Text.isHexDigit_of_isDigit {c : Char} (h : c.isDigit = true) : IsHexDigit c := by
  have hcode : 48 ≤ c.toNat ∧ c.toNat ≤ 57 := Char.isDigit_iff_toNat.1 h
  refine ⟨c.toNat - 48, by omega, Char.toNat_inj.1 ?_⟩
  rw [Nat.toNat_digitChar_of_lt_ten (by omega)]
  omega

theorem Text.isHexDigit_of_mem_toDigits {n : Nat} {c : Char} (h : c ∈ Nat.toDigits 16 n) :
    IsHexDigit c := by
  induction n using Nat.strongRecOn with
  | ind n ih =>
    by_cases hn : n < 16
    · rw [Nat.toDigits_of_lt_base hn] at h
      exact ⟨n, hn, List.mem_singleton.1 h⟩
    · rw [Nat.toDigits_of_base_le (by decide) (Nat.le_of_not_lt hn)] at h
      rcases List.mem_append.1 h with h | h
      · exact ih (n / 16) (by omega) h
      · exact ⟨n % 16, Nat.mod_lt n (by decide), List.mem_singleton.1 h⟩

/-! ## IPv4 -/

namespace Ipv4

theorem octet?_digits (o : UInt8) : octet? (Text.digits o.toNat) = some o := by
  have hlead : (Text.digits o.toNat).length = 1 ∨ (Text.digits o.toNat).head? ≠ some '0' := by
    by_cases hzero : o.toNat = 0
    · left
      rw [hzero]
      rfl
    · exact .inr (Text.head?_digits hzero)
  rw [octet?, Text.ofDigits_digits, Option.bind_some, if_pos ⟨o.toNat_lt, hlead⟩, UInt8.ofNat_toNat]

variable (ip : Ipv4)

theorem splitOn_write : ip.write.splitOn '.' = ip.octets.map fun o => Text.digits o.toNat := by
  have hdot : ∀ part ∈ ip.octets.map fun o => Text.digits o.toNat, '.' ∉ part := by
    intro part hpart hmem
    obtain ⟨o, -, rfl⟩ := List.mem_map.1 hpart
    exact absurd (Text.isDigit_of_mem_digits hmem) (by decide)
  exact List.splitOn_intercalate '.' hdot (List.cons_ne_nil _ _)

theorem ofText?_write : ofText? ip.write = some ip := by
  rw [ofText?, splitOn_write]
  simp [octets, octet?_digits]

theorem mem_write {c : Char} (h : c ∈ ip.write) : Text.IsHexDigit c ∨ c = '.' := by
  rcases Text.mem_intercalate h with rfl | ⟨part, hpart, hc⟩
  · exact .inr rfl
  · obtain ⟨o, -, rfl⟩ := List.mem_map.1 hpart
    exact .inl (Text.isHexDigit_of_isDigit (Text.isDigit_of_mem_digits hc))

theorem length_write : 4 < ip.write.length := by
  have hdigits (n : Nat) : 0 < (Text.digits n).length := Nat.length_toDigits_pos
  have ha := hdigits ip.a.toNat
  have hb := hdigits ip.b.toNat
  have hc := hdigits ip.c.toNat
  have hd := hdigits ip.d.toNat
  simp only [write, octets, List.map_cons, List.map_nil, List.intercalate_cons_cons,
    List.intercalate_singleton, List.length_append, List.length_singleton]
  omega

end Ipv4

/-! ## groups of an IPv6 address -/

namespace Ipv6

theorem foldlM_toDigits (n : Nat) : (Nat.toDigits 16 n).foldlM
    (fun n c => (Text.hexValue c).map (16 * n + ·)) 0 = some n := by
  induction n using Nat.strongRecOn with
  | ind n ih =>
    by_cases hn : n < 16
    · rw [Nat.toDigits_of_lt_base hn]
      simp [Text.hexValue_digitChar hn]
    · have hdigit := Text.hexValue_digitChar (Nat.mod_lt n (by decide : 16 > 0))
      have hvalue : 16 * (n / 16) + n % 16 = n := Nat.div_add_mod n 16
      rw [Nat.toDigits_of_base_le (by decide) (Nat.le_of_not_lt hn), List.foldlM_append,
        ih (n / 16) (by omega)]
      simp [hdigit, hvalue]

theorem group?_hexGroup (g : UInt16) : group? (hexGroup g) = some g := by
  have hlength : (hexGroup g).length ≤ 4 :=
    (Nat.length_toDigits_le_iff (by decide) (by decide)).2 g.toNat_lt
  have hshape : ¬ (hexGroup g = [] ∨ 4 < (hexGroup g).length) :=
    not_or.2 ⟨Nat.toDigits_ne_nil, Nat.not_lt.2 hlength⟩
  have hvalue : (hexGroup g).foldlM (fun n c => (Text.hexValue c).map (16 * n + ·)) 0 =
      some g.toNat := foldlM_toDigits g.toNat
  rw [group?, if_neg hshape, hvalue, Option.map_some, UInt16.ofNat_toNat]

theorem hexGroup_ne_nil (g : UInt16) : hexGroup g ≠ [] := Nat.toDigits_ne_nil

theorem colon_notMem_hexGroup (g : UInt16) : ':' ∉ hexGroup g := by
  intro hmem
  have hne : ':' ≠ ':' := Text.IsHexDigit.of_all (p := (· ≠ ':')) (by decide)
    (Text.isHexDigit_of_mem_toDigits hmem)
  exact hne rfl

/-! ## rows of groups -/

theorem writeGroups_cons (g : UInt16) {gs : List UInt16} (hne : gs ≠ []) :
    writeGroups (g :: gs) = hexGroup g ++ ':' :: writeGroups gs := by
  obtain ⟨next, gs, rfl⟩ := List.exists_cons_of_ne_nil hne
  rw [writeGroups, List.map_cons, List.map_cons, List.intercalate_cons_cons, List.append_assoc]
  rfl

theorem head?_writeGroups {gs : List UInt16} (hne : gs ≠ []) (rest : List Char) :
    ∃ c, (writeGroups gs ++ rest).head? = some c ∧ c ≠ ':' := by
  obtain ⟨g, gs, rfl⟩ := List.exists_cons_of_ne_nil hne
  obtain ⟨c, s, hgroup⟩ := List.exists_cons_of_ne_nil (hexGroup_ne_nil g)
  refine ⟨c, ?_, ?_⟩
  · cases gs with
    | nil =>
      have hsingle : writeGroups [g] = hexGroup g := List.intercalate_singleton
      rw [hsingle, hgroup]
      rfl
    | cons next gs =>
      rw [writeGroups_cons g (List.cons_ne_nil next gs), hgroup]
      rfl
  · rintro rfl
    exact colon_notMem_hexGroup g (hgroup ▸ List.mem_cons_self)

theorem groupsOfParts?_hexGroup (tail : Bool) (gs : List UInt16) :
    groupsOfParts? tail (gs.map hexGroup) = some gs := by
  induction gs with
  | nil => rfl
  | cons g gs ih =>
    cases gs with
    | nil => simp [groupsOfParts?, group?_hexGroup]
    | cons next gs =>
      rw [List.map_cons, List.map_cons, groupsOfParts?, ← List.map_cons, ih, group?_hexGroup]
      · rfl
      · exact nofun

theorem groups?_writeGroups (tail : Bool) (gs : List UInt16) :
    groups? tail (writeGroups gs) = some gs := by
  by_cases hne : gs = []
  case pos =>
    rw [hne]
    rfl
  have hcolon : ∀ part ∈ gs.map hexGroup, ':' ∉ part := by
    intro part hpart
    obtain ⟨g, -, rfl⟩ := List.mem_map.1 hpart
    exact colon_notMem_hexGroup g
  have hsplit : (writeGroups gs).splitOn ':' = gs.map hexGroup :=
    List.splitOn_intercalate ':' hcolon (mt List.map_eq_nil_iff.1 hne)
  have htext : writeGroups gs ≠ [] := by
    obtain ⟨c, hhead, -⟩ := head?_writeGroups hne []
    intro hnil
    rw [hnil] at hhead
    cases hhead
  rw [groups?, if_neg htext, hsplit, groupsOfParts?_hexGroup]

/-! ## the gap -/

theorem splitGap_cons {c : Char} {s : List Char} (h : c = ':' → s.head? ≠ some ':') :
    splitGap (c :: s) = (splitGap s).map fun p => (c :: p.1, p.2) := by
  rw [splitGap.eq_def]
  split
  · next heq =>
    obtain ⟨rfl, rfl⟩ := List.cons.inj heq
    exact absurd rfl (h rfl)
  · next heq =>
    obtain ⟨rfl, rfl⟩ := List.cons.inj heq
    rfl
  · next heq => cases heq

theorem splitGap_append {block : List Char} (h : ':' ∉ block) (s : List Char) :
    splitGap (block ++ s) = (splitGap s).map fun p => (block ++ p.1, p.2) := by
  induction block with
  | nil => exact Option.map_id'.symm
  | cons c block ih =>
    obtain ⟨hc, hblock⟩ := not_or.1 (mt List.mem_cons.2 h)
    rw [List.cons_append, splitGap_cons fun heq => absurd heq.symm hc, ih hblock, Option.map_map]
    rfl

theorem splitGap_writeGroups (gs : List UInt16) (rest : List Char) :
    splitGap (writeGroups gs ++ rest) =
      (splitGap rest).map fun p => (writeGroups gs ++ p.1, p.2) := by
  induction gs with
  | nil => exact Option.map_id'.symm
  | cons g gs ih =>
    by_cases hne : gs = []
    · have hsingle : writeGroups [g] = hexGroup g := List.intercalate_singleton
      rw [hne, hsingle]
      exact splitGap_append (colon_notMem_hexGroup g) rest
    · obtain ⟨c, hhead, hc⟩ := head?_writeGroups hne rest
      have hcolon : (writeGroups gs ++ rest).head? ≠ some ':' := by
        rw [hhead]
        exact fun heq => hc (Option.some.inj heq)
      rw [writeGroups_cons g hne, List.append_assoc, List.cons_append,
        splitGap_append (colon_notMem_hexGroup g), splitGap_cons fun _ => hcolon, ih,
        Option.map_map, Option.map_map]
      simp [Function.comp_def]

/-! ## whole addresses -/

theorem ofGroups?_groups (ip : Ipv6) : ofGroups? ip.groups = some ip := dif_pos ip.size

/-- a text with a gap between two rows of groups -/
theorem ofText?_of_gap {ip : Ipv6} {s before after : List Char} {left right : List UInt16}
    {run : Nat} (hsplit : splitGap s = some (before, after))
    (hleft : groups? false before = some left)
    (hright : groups? true after = some right) (hrun : 0 < run)
    (hgroups : ip.groups = left ++ List.replicate run 0 ++ right) : ofText? s = some ip := by
  have hsize : left.length + run + right.length = 8 := by
    have hsize := ip.size
    rw [hgroups, List.length_append, List.length_append, List.length_replicate] at hsize
    exact hsize
  have hgap : 8 - left.length - right.length = run := by omega
  rw [ofText?, hsplit]
  simp only [hleft, hright, Option.bind_eq_bind, Option.bind_some]
  rw [if_pos (by omega), hgap, ← hgroups, ofGroups?_groups]

theorem drop_eq_zeros (gs : List UInt16) (i : Nat) :
    gs.drop i = List.replicate (zerosAt gs i) 0 ++ gs.drop (i + zerosAt gs i) := by
  have hzeros : (gs.drop i).takeWhile (· = 0) = List.replicate (zerosAt gs i) 0 :=
    List.eq_replicate_of_mem fun g hg => by simpa using List.mem_takeWhile_imp hg
  have hsplit := List.prefix_iff_eq_append.1 (List.takeWhile_prefix (fun g : UInt16 => g = 0)
    (l := gs.drop i))
  rw [← hzeros, ← List.drop_drop]
  exact hsplit.symm

theorem joinBytes (g : UInt16) :
    (g >>> 8).toUInt8.toUInt16 <<< 8 ||| g.toUInt8.toUInt16 = g := by
  have hlow : g.toNat % 2 ^ 8 < 2 ^ 8 := Nat.mod_lt _ (by decide)
  have hhigh : g.toNat / 2 ^ 8 < 2 ^ 8 := by
    have := g.toNat_lt
    omega
  have hroom : (g.toNat / 2 ^ 8) <<< 8 < 2 ^ 16 := by
    rw [Nat.shiftLeft_eq]
    omega
  rw [← UInt16.toNat_inj, UInt16.toNat_or, UInt16.toNat_shiftLeft, UInt8.toNat_toUInt16,
    UInt8.toNat_toUInt16, UInt16.toNat_toUInt8, UInt16.toNat_toUInt8, UInt16.toNat_shiftRight]
  show ((g.toNat >>> 8 % 2 ^ 8) <<< 8 % 2 ^ 16) ||| g.toNat % 2 ^ 8 = g.toNat
  rw [Nat.shiftRight_eq_div_pow, Nat.mod_eq_of_lt hhigh, Nat.mod_eq_of_lt hroom,
    ← Nat.shiftLeft_add_eq_or_of_lt hlow, Nat.shiftLeft_eq]
  exact Nat.div_add_mod' g.toNat (2 ^ 8)

theorem ofText?_mapped {ip : Ipv6} {v4 : Ipv4} (h : ip.mapped? = some v4) :
    ofText? ("::ffff:".toList ++ v4.write) = some ip := by
  have hgroups : ip.groups = [] ++ List.replicate 5 0 ++ 0xffff :: groupsOfIpv4 v4 := by
    unfold mapped? at h
    split at h
    · next hi lo heq =>
      obtain rfl := Option.some.inj h
      rw [heq, groupsOfIpv4, joinBytes, joinBytes]
      rfl
    · cases h
  have hright : groups? true ("ffff:".toList ++ v4.write) = some (0xffff :: groupsOfIpv4 v4) := by
    have htext : "ffff:".toList ++ v4.write = [':'].intercalate ["ffff".toList, v4.write] := by
      rw [List.intercalate_cons_cons, List.intercalate_singleton]
      rfl
    have hcolon : ∀ part ∈ ["ffff".toList, v4.write], ':' ∉ part := by
      intro part hpart hmem
      simp only [List.mem_cons, List.not_mem_nil, or_false] at hpart
      rcases hpart with rfl | rfl
      · exact absurd hmem (by decide)
      · rcases v4.mem_write hmem with hdigit | hdot
        · have hne : ':' ≠ ':' := hdigit.of_all (p := (· ≠ ':')) (by decide)
          exact hne rfl
        · exact absurd hdot (by decide)
    have hne : "ffff:".toList ++ v4.write ≠ [] :=
      List.append_ne_nil_of_left_ne_nil (by decide) _
    have hfront : group? ['f', 'f', 'f', 'f'] = some 0xffff := by decide
    have hback : group? v4.write = none := if_pos (.inr v4.length_write)
    rw [groups?, if_neg hne, htext, List.splitOn_intercalate ':' hcolon (List.cons_ne_nil _ _)]
    simp [groupsOfParts?, hfront, hback, Ipv4.ofText?_write]
  have hsplit : splitGap ("::ffff:".toList ++ v4.write) =
      some ([], "ffff:".toList ++ v4.write) := rfl
  have hleft : groups? false [] = some [] := rfl
  exact ofText?_of_gap hsplit hleft hright (by decide) hgroups

/-- **An IPv6 address is read back from its text.** -/
theorem ofText?_write (ip : Ipv6) : ofText? ip.write = some ip := by
  rw [write]
  split
  · next v4 hmapped => exact ofText?_mapped hmapped
  · dsimp only
    generalize longestZeros ip.groups = start
    split
    · next hrun =>
      have hgroups : ip.groups = ip.groups.take start ++
          List.replicate (zerosAt ip.groups start) 0 ++
            ip.groups.drop (start + zerosAt ip.groups start) := by
        rw [List.append_assoc, ← drop_eq_zeros, List.take_append_drop]
      have hsplit : splitGap (writeGroups (ip.groups.take start) ++ [':', ':'] ++
          writeGroups (ip.groups.drop (start + zerosAt ip.groups start))) =
            some (writeGroups (ip.groups.take start),
              writeGroups (ip.groups.drop (start + zerosAt ip.groups start))) := by
        rw [List.append_assoc, splitGap_writeGroups]
        show some (_ ++ [], writeGroups _) = _
        rw [List.append_nil]
      exact ofText?_of_gap hsplit (groups?_writeGroups false _) (groups?_writeGroups true _)
        (Nat.lt_of_succ_lt hrun) hgroups
    · have hsplit : splitGap (writeGroups ip.groups) = none := by
        rw [← List.append_nil (writeGroups ip.groups), splitGap_writeGroups]
        rfl
      rw [ofText?, hsplit]
      simp only [groups?_writeGroups, Option.bind_some, ofGroups?_groups]

/-! ## the characters of an address -/

theorem mem_writeGroups {gs : List UInt16} {c : Char} (h : c ∈ writeGroups gs) :
    Text.IsHexDigit c ∨ c = ':' := by
  rcases Text.mem_intercalate h with rfl | ⟨part, hpart, hc⟩
  · exact .inr rfl
  · obtain ⟨g, -, rfl⟩ := List.mem_map.1 hpart
    exact .inl (Text.isHexDigit_of_mem_toDigits hc)

theorem mem_write {ip : Ipv6} {c : Char} (h : c ∈ ip.write) :
    Text.IsHexDigit c ∨ c = '.' ∨ c = ':' := by
  have hgroups {gs : List UInt16} (h : c ∈ writeGroups gs) :
      Text.IsHexDigit c ∨ c = '.' ∨ c = ':' := (mem_writeGroups h).imp_right .inr
  rw [write] at h
  split at h
  · next v4 hmapped =>
    have hfront : "::ffff:".toList.all (fun c => c = Nat.digitChar 15 ∨ c = ':') = true := by
      decide
    rcases List.mem_append.1 h with h | h
    · rcases of_decide_eq_true (List.all_eq_true.1 hfront c h) with hdigit | hcolon
      · exact .inl ⟨15, by decide, hdigit⟩
      · exact .inr (.inr hcolon)
    · rcases v4.mem_write h with hdigit | hdot
      · exact .inl hdigit
      · exact .inr (.inl hdot)
  · dsimp only at h
    split at h
    · rcases List.mem_append.1 h with h | h
      · rcases List.mem_append.1 h with h | h
        · exact hgroups h
        · simp only [List.mem_cons, List.not_mem_nil, or_false, or_self] at h
          exact .inr (.inr h)
      · exact hgroups h
    · exact hgroups h

theorem colon_mem_write (ip : Ipv6) : ':' ∈ ip.write := by
  rw [write]
  split
  · exact List.mem_append_left _ (by decide)
  · dsimp only
    split
    · simp
    · obtain ⟨g, gs, hgroups⟩ := List.exists_cons_of_length_eq_add_one ip.size
      have hne : gs ≠ [] := by
        rintro rfl
        have hsize := ip.size
        rw [hgroups, List.length_singleton] at hsize
        omega
      rw [hgroups, writeGroups_cons g hne]
      exact List.mem_append_right _ List.mem_cons_self

end Ipv6

end LoadTest
