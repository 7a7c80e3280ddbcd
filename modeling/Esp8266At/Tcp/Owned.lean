import Esp8266At.Tcp.Blocks

/-!
# Which link has a connection

As long as no link is opened and no client accepted with the remote address and port of another one
(`KeysDistinct`), the search by address and port finds the link that has the connection (`Wiring.Owned`).
-/

namespace Esp8266At.Tcp

namespace Wiring

/-- Links have different blocks, and the tag and the key of their block. -/
structure Slotted (w : Wiring) : Prop where
  tag : ∀ i t, w.slots i = some t → t.parrent = linkTag i ∨ ∃ k, t.parrent = serverTag k
  parrent : ∀ i t, w.slots i = some t → t.parrent = (w.ident t.conn).parrent
  inj : ∀ i j t u, w.slots i = some t → w.slots j = some u → t.conn = u.conn → i = j
  key : ∀ i t, w.slots i = some t → w.Live t.conn → t.key = (w.ident t.conn).key
  waiting : ∀ c ∈ w.lookups, ∃ i t, w.slots i = some t ∧ t.conn = c

/-- A link with the key of a connection has this connection. -/
structure Owned (w : Wiring) : Prop extends Slotted w where
  owner : ∀ i t c, w.slots i = some t → w.Live c → (w.ident c).key = t.key → t.conn = c

variable {role : ℕ → Role} {w : Wiring}

theorem slots_setSlot {i j : LinkId} {t u : Slot} (h : (w.setSlot i (some t)).slots j = some u) :
    (j = i ∧ u = t) ∨ (j ≠ i ∧ w.slots j = some u) := by
  by_cases hj : j = i
  · simp only [setSlot, hj, Table.set_self, Option.some.injEq] at h
    exact .inl ⟨hj, h.symm⟩
  · exact .inr ⟨hj, by rw [← h]; exact (Table.set_ne hj).symm⟩

/-- A free link is used for a block that no link has. -/
theorem Slotted.setSlot_some (h : w.Slotted) {i : LinkId} {t : Slot} (hfree : w.slots i = none)
    (htag : t.parrent = linkTag i ∨ ∃ k, t.parrent = serverTag k) (hparrent : t.parrent = (w.ident t.conn).parrent)
    (hnew : ∀ j u, w.slots j = some u → u.conn ≠ t.conn) (hkey : w.Live t.conn → t.key = (w.ident t.conn).key) :
    (w.setSlot i (some t)).Slotted where
  tag j u hu := by
    rcases slots_setSlot hu with ⟨rfl, rfl⟩ | ⟨-, hu⟩
    · exact htag
    · exact h.tag j u hu
  parrent j u hu := by
    rcases slots_setSlot hu with ⟨rfl, rfl⟩ | ⟨-, hu⟩
    · exact hparrent
    · exact h.parrent j u hu
  inj j k u v hu hv hconn := by
    rcases slots_setSlot hu with ⟨rfl, rfl⟩ | ⟨-, hju⟩ <;> rcases slots_setSlot hv with ⟨rfl, rfl⟩ | ⟨-, hkv⟩
    · rfl
    · exact absurd hconn.symm (hnew k v hkv)
    · exact absurd hconn (hnew j u hju)
    · exact h.inj j k u v hju hkv hconn
  key j u hu := by
    rcases slots_setSlot hu with ⟨rfl, rfl⟩ | ⟨-, hu⟩
    · exact hkey
    · exact h.key j u hu
  waiting c hc := by
    obtain ⟨j, u, hu, hconn⟩ := h.waiting c hc
    have hj : j ≠ i := by
      rintro rfl
      rw [hfree] at hu
      cases hu
    exact ⟨j, u, by rw [← hu]; exact Table.set_ne hj, hconn⟩

namespace Owned

variable (h : w.Owned)
include h

/-- The search finds the link of a connection. -/
theorem find_key {i : LinkId} {t : Slot} (ht : w.slots i = some t) (hlive : w.Live t.conn) :
    (w.slots.firstWhere fun u => u.key = (w.ident t.conn).key) = some i := by
  refine Table.firstWhere_of_unique ht (by simp [h.key i t ht hlive]) ?_
  intro j u hu hkey
  have hconn := h.owner j u t.conn hu hlive (of_decide_eq_true hkey).symm
  exact h.inj j i u t hu ht hconn

/-! ### Single changes -/

theorem setSlot_none {i : LinkId} (hwait : ∀ t, w.slots i = some t → t.conn ∉ w.lookups) :
    (w.setSlot i none).Owned := by
  have hold : ∀ {j t}, (w.setSlot i none).slots j = some t → j ≠ i ∧ w.slots j = some t := by
    intro j t ht
    by_cases hj : j = i
    · simp [setSlot, hj] at ht
    · exact ⟨hj, by rw [← ht]; exact (Table.set_ne hj).symm⟩
  exact
    { tag := fun j t ht => h.tag j t (hold ht).2
      parrent := fun j t ht => h.parrent j t (hold ht).2
      inj := fun j k t u ht hu => h.inj j k t u (hold ht).2 (hold hu).2
      key := fun j t ht => h.key j t (hold ht).2
      owner := fun j t c ht => h.owner j t c (hold ht).2
      waiting := by
        intro c hc
        obtain ⟨j, t, ht, hconn⟩ := h.waiting c hc
        have hj : j ≠ i := by
          rintro rfl
          exact hwait t ht (by rwa [hconn])
        exact ⟨j, t, by rw [← ht]; exact Table.set_ne hj, hconn⟩ }

theorem setSlot_some {i : LinkId} {t : Slot} (hfree : w.slots i = none)
    (htag : t.parrent = linkTag i ∨ ∃ k, t.parrent = serverTag k) (hparrent : t.parrent = (w.ident t.conn).parrent)
    (hnew : ∀ j u, w.slots j = some u → u.conn ≠ t.conn) (hkey : w.Live t.conn → t.key = (w.ident t.conn).key)
    (howner : ∀ c, w.Live c → (w.ident c).key = t.key → t.conn = c) : (w.setSlot i (some t)).Owned :=
  { h.toSlotted.setSlot_some hfree htag hparrent hnew hkey with
    owner := by
      intro j u c hu
      rcases slots_setSlot hu with ⟨rfl, rfl⟩ | ⟨-, hu⟩
      · exact howner c
      · exact h.owner j u c hu }

theorem addLookup {c : ℕ} (hc : ∃ i t, w.slots i = some t ∧ t.conn = c) : (w.addLookup c).Owned :=
  { h with
    waiting := by
      intro d hd
      rcases List.mem_append.mp hd with hd | hd
      · exact h.waiting d hd
      · rw [List.mem_singleton.mp hd]
        exact hc }

theorem dropLookup (c : ℕ) : (w.dropLookup c).Owned :=
  { h with waiting := fun d hd => h.waiting d (List.mem_of_mem_filter hd) }

theorem dropLink (c : ℕ) : (w.dropLink c).Owned := by
  have hlive : ∀ {d}, (w.dropLink c).Live d → w.Live d := fun hd => hd.imp fun _ hp => List.mem_of_mem_filter hp
  exact
    { h with
      key := fun i t ht hd => h.key i t ht (hlive hd)
      owner := fun i t d ht hd => h.owner i t d ht (hlive hd) }

theorem addLink {c : ℕ} {p : Option ℕ} (hkey : ∀ i t, w.slots i = some t → t.conn = c → t.key = (w.ident c).key)
    (howner : ∀ i t, w.slots i = some t → (w.ident c).key = t.key → t.conn = c) : (w.addLink c p).Owned := by
  have hlive : ∀ {d}, (w.addLink c p).Live d → w.Live d ∨ d = c := by
    rintro d ⟨q, hq⟩
    rcases List.mem_append.mp hq with hq | hq
    · exact .inl ⟨q, hq⟩
    · exact .inr (congrArg Prod.fst (List.mem_singleton.mp hq))
  exact
    { h with
      key := by
        intro i t ht hd
        rcases hlive hd with hd | rfl
        · exact h.key i t ht hd
        · exact hkey i t ht rfl
      owner := by
        intro i t d ht hd
        rcases hlive hd with hd | rfl
        · exact h.owner i t d ht hd
        · exact howner i t ht }

/-- A block that is neither a link's nor a connection's changes. -/
theorem setIdent {c : ℕ} (d : Ident) (hslot : ∀ i t, w.slots i = some t → t.conn ≠ c) (hlive : ¬ w.Live c) :
    (w.setIdent c d).Owned := by
  have hold : ∀ {b}, b ≠ c → (w.setIdent c d).ident b = w.ident b :=
    fun hb => Function.update_of_ne (β := fun _ => Ident) hb d w.ident
  exact
    { h with
      parrent := fun i t ht => by
        rw [hold (hslot i t ht)]
        exact h.parrent i t ht
      key := fun i t ht hd => by
        rw [hold (hslot i t ht)]
        exact h.key i t ht hd
      owner := fun i t b ht hb => by
        have hne : b ≠ c := by
          rintro rfl
          exact hlive hb
        rw [hold hne]
        exact h.owner i t b ht hb }

/-- The block of a server changes. -/
theorem setIdent_server (hb : w.Blocks role) {b : ℕ} (hrole : role b = .server) (d : Ident) :
    (w.setIdent b d).Owned := by
  refine h.setIdent d ?_ ?_
  · rintro i t ht rfl
    exact (hb.slot i t ht).2 hrole
  · rintro ⟨p, hp⟩
    have hlink := (hb.link b p hp).2
    rw [hrole] at hlink
    cases p <;> cases hlink

theorem create (hb : w.Blocks role) (d : Ident) : (w.create d).Owned := by
  have hident := h.setIdent (c := w.nextBlock) d (fun i t ht => (hb.slot i t ht).1.ne)
    (fun ⟨p, hp⟩ => (hb.link _ p hp).1.ne rfl)
  exact { hident with }

end Owned

/-- No link but that of block `c` and no connection but `c` has the key. -/
def KeyFree (w : Wiring) (c : ℕ) (key : Ip × UInt16) : Prop :=
  (∀ i t, w.slots i = some t → t.conn ≠ c → t.key ≠ key) ∧ ∀ d, w.Live d → d ≠ c → (w.ident d).key ≠ key

namespace Slotted

variable (h : w.Slotted) (hb : w.Blocks role)
include h hb

/-- The search by tag finds the link of a block. -/
theorem find_tag {i : LinkId} {t : Slot} (ht : w.slots i = some t) (hrole : role t.conn = .link) :
    (w.slots.firstWhere fun u => u.parrent = (w.ident t.conn).parrent) = some i := by
  obtain ⟨k, hk⟩ := hb.linkIdent _ (hb.slot i t ht).1 hrole
  have htag : t.parrent = linkTag i := by
    rcases h.tag i t ht with htag | ⟨j, hj⟩
    · exact htag
    · rw [h.parrent i t ht, hk] at hj
      exact absurd hj (linkTag_ne_serverTag k j)
  refine Table.firstWhere_of_unique ht (by simp [← h.parrent i t ht]) ?_
  intro j u hu hparrent
  have hpar := of_decide_eq_true hparrent
  rw [← h.parrent i t ht, htag] at hpar
  rcases h.tag j u hu with hj | ⟨k, hk⟩
  · exact linkTag_injective (hj.symm.trans hpar)
  · exact absurd (hpar.symm.trans hk) (linkTag_ne_serverTag i k)

omit hb in
/-- A link that is not connected gets an address. -/
theorem setKey {i : LinkId} {t : Slot} (ht : w.slots i = some t) (hlive : ¬ w.Live t.conn) {d : Ident}
    (hd : d.parrent = (w.ident t.conn).parrent) (hfree : w.KeyFree t.conn d.key)
    (howner : ∀ j u c, j ≠ i → w.slots j = some u → w.Live c → (w.ident c).key = u.key → u.conn = c) :
    ((w.setIdent t.conn d).setSlot i (some { t with key := d.key })).Owned := by
  have hold : ∀ {j u}, ((w.setIdent t.conn d).setSlot i (some { t with key := d.key })).slots j = some u →
      (j = i ∧ u = { t with key := d.key }) ∨ (j ≠ i ∧ w.slots j = some u ∧ u.conn ≠ t.conn) := by
    intro j u hu
    rcases slots_setSlot hu with hu | ⟨hj, hu⟩
    · exact .inl hu
    · exact .inr ⟨hj, hu, fun hc => hj (h.inj j i u t hu ht hc)⟩
  have hident : ∀ {c}, c ≠ t.conn → (w.setIdent t.conn d).ident c = w.ident c :=
    fun hc => Function.update_of_ne (β := fun _ => Ident) hc d w.ident
  have hself : (w.setIdent t.conn d).ident t.conn = d := Function.update_self (β := fun _ => Ident) ..
  have hne : ∀ {c}, w.Live c → c ≠ t.conn := by
    rintro c hc rfl
    exact hlive hc
  exact
    { tag := by
        intro j u hu
        rcases hold hu with ⟨rfl, rfl⟩ | ⟨-, hu, -⟩
        · exact h.tag j t ht
        · exact h.tag j u hu
      parrent := by
        intro j u hu
        rcases hold hu with ⟨rfl, rfl⟩ | ⟨-, hu, hc⟩
        · exact (h.parrent j t ht).trans (hd.symm.trans (congrArg Ident.parrent hself.symm))
        · exact (h.parrent j u hu).trans (congrArg Ident.parrent (hident hc).symm)
      inj := by
        intro j k u v hu hv hconn
        rcases hold hu with ⟨rfl, rfl⟩ | ⟨-, hu, hcu⟩ <;> rcases hold hv with ⟨rfl, rfl⟩ | ⟨-, hv, hcv⟩
        · rfl
        · exact absurd hconn.symm hcv
        · exact absurd hconn hcu
        · exact h.inj j k u v hu hv hconn
      key := by
        intro j u hu hc
        rcases hold hu with ⟨rfl, rfl⟩ | ⟨-, hu, hcu⟩
        · exact absurd hc hlive
        · exact (h.key j u hu hc).trans (congrArg Ident.key (hident hcu).symm)
      waiting := by
        intro c hc
        obtain ⟨j, u, hu, hconn⟩ := h.waiting c hc
        by_cases hj : j = i
        · subst hj
          rw [ht] at hu
          cases hu
          exact ⟨j, { t with key := d.key }, Table.set_self, hconn⟩
        · exact ⟨j, u, by rw [← hu]; exact Table.set_ne hj, hconn⟩
      owner := by
        intro j u c hu hc hkey
        have hsame := congrArg Ident.key (hident (hne hc))
        rcases hold hu with ⟨rfl, rfl⟩ | ⟨hj, hu, -⟩
        · exact absurd (hsame.symm.trans hkey) (hfree.2 c hc (hne hc))
        · exact howner j u c hj hu hc (hsame.symm.trans hkey) }

/-- A lookup that has ended with an address that no other link has. -/
theorem resolve {i : LinkId} {t : Slot} (ht : w.slots i = some t) (hrole : role t.conn = .link)
    (hlive : ¬ w.Live t.conn) (hwait : t.conn ∉ w.lookups) (ip : Option Ip) (connected : Bool)
    (hfree : ∀ a, ip = some a → w.KeyFree t.conn (a, t.key.2))
    (howner : ∀ j u c, j ≠ i → w.slots j = some u → w.Live c → (w.ident c).key = u.key → u.conn = c)
    (hnone : ip = none → w.Owned) : (w.resolve t.conn ip connected).Owned := by
  have hfind := h.find_tag hb ht hrole
  unfold Wiring.resolve
  rw [hfind]
  cases ip with
  | none =>
    refine (hnone rfl).setSlot_none fun u hu => ?_
    rw [ht] at hu
    cases hu
    exact hwait
  | some a =>
    simp only [ht]
    have hkey := h.setKey ht hlive (d := ⟨(w.ident t.conn).parrent, (a, t.key.2), some .tcpconn, true⟩) rfl
      (hfree a rfl) howner
    cases connected with
    | false => exact hkey
    | true =>
      refine hkey.addLink ?_ ?_
      · intro j u hu hconn
        have hj := hkey.inj j i u _ hu Table.set_self hconn
        subst hj
        simp only [Wiring.setSlot, Table.set_self, Option.some.injEq] at hu
        rw [← hu]
        simp [Wiring.setSlot, Wiring.setIdent]
      · intro j u hu hkeys
        by_cases hj : j = i
        · subst hj
          simp only [Wiring.setSlot, Table.set_self, Option.some.injEq] at hu
          rw [← hu]
        · have hju : w.slots j = some u := by rw [← hu]; exact (Table.set_ne hj).symm
          have hne : u.conn ≠ t.conn := fun hc => hj (h.inj j i u t hju ht hc)
          refine absurd ?_ ((hfree a rfl).1 j u hju hne)
          rw [← hkeys]
          simp [Wiring.setSlot, Wiring.setIdent]

end Slotted

namespace Owned

variable (h : w.Owned) (hb : w.Blocks role)
include h hb

/-! ### Commands and events -/

theorem openLink_slotted {i : LinkId} (hfree : w.slots i = none) (port : UInt16) : (w.openLink i port).Slotted := by
  have hnew := (h.create hb ⟨linkTag i, (0, 0), none, false⟩).toSlotted
  refine hnew.setSlot_some hfree (.inl rfl) ?_ ?_ ?_
  · simp [Wiring.create, Wiring.setIdent]
  · exact fun j u hu => (hb.slot j u hu).1.ne
  · rintro ⟨p, hp⟩
    exact absurd rfl (hb.link _ p hp).1.ne

/-- The links but the one that is opened can be found. -/
theorem openLink_owner {i : LinkId} {port : UInt16} {j : LinkId} {u : Slot} {c : ℕ} (hj : j ≠ i)
    (hu : (w.openLink i port).slots j = some u) (hc : (w.openLink i port).Live c)
    (hkey : ((w.openLink i port).ident c).key = u.key) : u.conn = c := by
  have hnew := h.create hb ⟨linkTag i, (0, 0), none, false⟩
  rcases slots_setSlot hu with ⟨rfl, -⟩ | ⟨-, hu⟩
  · exact absurd rfl hj
  · exact hnew.owner j u c hu hc hkey

theorem openLink {i : LinkId} (hfree : w.slots i = none) {port : UInt16}
    (hkey : ∀ d, w.Live d → (w.ident d).key ≠ (0, port)) : (w.openLink i port).Owned := by
  refine { h.openLink_slotted hb hfree port with owner := ?_ }
  intro j u c hu hc hkeys
  by_cases hj : j = i
  · subst hj
    obtain ⟨p, hp⟩ : w.Live c := hc
    have hne := (hb.link c p hp).1.ne
    have hold : ((w.openLink j port).ident c).key = (w.ident c).key :=
      congrArg Ident.key (Function.update_of_ne (β := fun _ => Ident) hne _ _)
    rw [hold] at hkeys
    simp only [Wiring.openLink, Wiring.setSlot, Table.set_self, Option.some.injEq] at hu
    rw [← hu] at hkeys
    exact absurd hkeys (hkey c ⟨p, hp⟩)
  · exact h.openLink_owner hb hj hu hc hkeys

theorem start {i : LinkId} (hfree : w.slots i = none) {port : UInt16} {lookup : LookupResult} (connected : Bool)
    (hok : ∀ ip, lookup = .ok ip → w.KeyFree w.nextBlock (ip, port))
    (hwait : lookup = .inprogress → ∀ d, w.Live d → (w.ident d).key ≠ (0, port)) :
    (w.start i port lookup connected).Owned := by
  have hslot : (w.openLink i port).slots i = some ⟨linkTag i, (0, port), w.nextBlock⟩ := Table.set_self
  unfold Wiring.start
  cases lookup with
  | ok ip =>
    have hblocks := hb.openLink i port
    have hslotted := h.openLink_slotted hb hfree port
    refine hslotted.resolve hblocks hslot (Function.update_self ..) ?_ ?_ (some ip) connected ?_ ?_ (by simp)
    · rintro ⟨p, hp⟩
      exact (hb.link _ p hp).1.ne rfl
    · exact fun hin => (hb.lookup _ hin).1.ne rfl
    · rintro a ⟨⟩
      refine ⟨?_, ?_⟩
      · intro j u hu hconn
        rcases slots_setSlot hu with ⟨rfl, rfl⟩ | ⟨-, hu⟩
        · exact absurd rfl hconn
        · exact (hok ip rfl).1 j u hu (hb.slot j u hu).1.ne
      · intro d hd hne
        have hkeys := (hok ip rfl).2 d hd hne
        rwa [← show ((w.openLink i port).ident d).key = (w.ident d).key from
          congrArg Ident.key (Function.update_of_ne (β := fun _ => Ident) hne _ _)] at hkeys
    · intro j u c hj hu hc hkey
      exact h.openLink_owner hb hj hu hc hkey
  | inprogress => exact (h.openLink hb hfree (hwait rfl)).addLookup ⟨i, _, hslot, rfl⟩
  | failed =>
    have hclear : (w.openLink i port).setSlot i none = w.create ⟨linkTag i, (0, 0), none, false⟩ := by
      have hset : (w.slots.set i (some ⟨linkTag i, (0, port), w.nextBlock⟩)).set i none = w.slots := by
        funext j
        by_cases hj : j = i
        · rw [hj, Table.set_self, hfree]
        · rw [Table.set_ne hj, Table.set_ne hj]
      exact congrArg (fun f => { w.create ⟨linkTag i, (0, 0), none, false⟩ with slots := f }) hset
    simp only [hclear]
    exact h.create hb _

theorem openServer (k : ServerId) : (w.openServer k).Owned := by
  have hnew := h.create hb ⟨serverTag k, (0, 0), some .tcpserverClient, false⟩
  exact { hnew with }

/-- A client whose address and port no link and no connection has. -/
theorem accept {server : ℕ} (hserver : server < w.nextBlock) (hrole : role server = .server) {key : Ip × UInt16}
    (hfree : ∀ i t, w.slots i = some t → t.key ≠ key) : (w.accept server key).Owned := by
  have hofs : (w.ident server).OfServer := hb.serverIdent server hserver (by simp [hrole])
  have hident := h.setIdent_server hb hrole { w.ident server with key := key }
  have hblocks := hb.setIdent (c := server) (d := { w.ident server with key := key }) (by simp [hrole])
    (fun _ => hofs) (by simp [hrole])
  refine (hident.create hblocks { w.ident server with key := key }).addLink ?_ ?_
  · intro i t ht hconn
    exact absurd hconn (hb.slot i t ht).1.ne
  · intro i t ht hkey
    refine absurd ?_ (hfree i t ht)
    rw [← hkey]
    simp [Wiring.create, Wiring.setIdent]

/-- A client gets a free link. -/
theorem acceptLink {server : ℕ} (hserver : server < w.nextBlock) (hrole : role server = .server)
    {key : Ip × UInt16} (hfree : w.KeyFree w.nextBlock key) {i : LinkId} (hi : w.slots i = none) :
    ((w.accept server key).setSlot i (some ⟨(w.ident server).parrent, key, w.nextBlock⟩)).Owned := by
  have hofs : (w.ident server).OfServer := hb.serverIdent server hserver (by simp [hrole])
  have hident := accept_ident w server key
  have hslots : ∀ j u, w.slots j = some u → u.conn ≠ w.nextBlock := fun j u hu => (hb.slot j u hu).1.ne
  have haccept : (w.accept server key).Owned :=
    h.accept hb hserver hrole fun j u hu => hfree.1 j u hu (hslots j u hu)
  refine haccept.setSlot_some hi (.inr hofs.1) ?_ hslots ?_ ?_
  · exact (congrArg Ident.parrent hident).symm
  · exact fun _ => (congrArg Ident.key hident).symm
  · rintro c ⟨p, hp⟩ hkey
    rcases List.mem_append.mp hp with hp | hp
    · have hlt := (hb.link c p hp).1
      have hne : c ≠ server := by
        rintro rfl
        have hlink := (hb.link c p hp).2
        rw [hrole] at hlink
        cases p <;> cases hlink
      have hold : (w.accept server key).ident c = w.ident c := by
        simp [Wiring.accept, Wiring.addLink, Wiring.create, Wiring.setIdent, hlt.ne, hne]
      rw [hold] at hkey
      exact absurd hkey (hfree.2 c ⟨p, hp⟩ hlt.ne)
    · exact (congrArg Prod.fst (List.mem_singleton.mp hp)).symm

theorem report {c : ℕ} {p : Option ℕ} (hc : (c, p) ∈ w.links) : (w.report c p).Owned := by
  cases p with
  | none => exact h
  | some server => exact h.setIdent_server hb (hb.preverse c server hc).2 _

/-- A connection ends. -/
theorem endLink {c : ℕ} {p : Option ℕ} (hc : (c, p) ∈ w.links) (handled : Bool) :
    (w.endLink c p handled).Owned := by
  have hreport := h.report hb hc
  have hslots : (w.report c p).slots = w.slots := by cases p <;> rfl
  have hlookups : (w.report c p).lookups = w.lookups := by cases p <;> rfl
  have hfreed : ((w.report c p).freeKey (w.ident c).key).Owned := by
    unfold Wiring.freeKey
    split
    · rename_i i hfind
      refine hreport.setSlot_none fun t ht => ?_
      obtain ⟨u, hu, hkey⟩ := Table.firstWhere_some hfind
      rw [ht] at hu
      cases hu
      rw [hslots] at ht
      have hconn := h.owner i t c ht ⟨p, hc⟩ (of_decide_eq_true hkey).symm
      rw [hlookups, hconn]
      exact fun hin => hb.waiting c hin ⟨p, hc⟩
    · exact hreport
  cases handled with
  | false => exact hreport.dropLink c
  | true => exact hfreed.dropLink c

end Owned

end Wiring

/-! ### Steps -/

theorem owned_atReset (heap : ℕ → Bool) (numTcpPcb : ℕ) : (atReset heap numTcpPcb).wiring.Owned := by
  constructor
  · constructor <;> simp [atReset, wiring]
  · simp [atReset, wiring]

/-- No link that is opened and no client that is accepted has the remote address and port of another link or
connection; a link that waits for its address has none yet. -/
def KeysDistinct (lib : LibAt) (a : Action) (s : Tcp) : Prop :=
  match a with
  | .command (.start pPara lookup _ _) => s.busy = false → ∀ p, startParams lib pPara s.tcpconns = .ok p →
    (∀ ip, lookup = .ok ip → s.wiring.KeyFree s.nextBlock (ip, p.port)) ∧
      (lookup = .inprogress → ∀ l ∈ s.plinkActive, (s.espconn l.pespconn).key ≠ (0, p.port))
  | .event (.found c ip _ _) => ∀ i t a, s.tcpconns i = some t → t.conn = c → ip = some a →
    s.wiring.KeyFree c (a, t.port)
  | .event (.accepted _ ip port) => s.wiring.KeyFree s.nextBlock (ip, port)
  | _ => True

variable {lib : LibAt} {s : Tcp} {role : ℕ → Role}

theorem live_wiring {c : ℕ} : s.wiring.Live c ↔ ∃ l ∈ s.plinkActive, l.pespconn = c := by
  constructor
  · rintro ⟨p, hp⟩
    obtain ⟨l, hl, hwire⟩ := List.mem_map.mp hp
    exact ⟨l, hl, congrArg Prod.fst hwire⟩
  · rintro ⟨l, hl, rfl⟩
    exact ⟨l.preverse, List.mem_map_of_mem hl⟩

theorem owned_command (c : Command) (h : s.wiring.Owned) (hb : s.wiring.Blocks role) (hbusy : s.busy = false)
    (hkeys : KeysDistinct lib (.command c) s) : (s.command lib c).wiring.Owned := by
  cases c with
  | start pPara lookup port result =>
    rcases s.wiring_atSetupCmdTCPConnConnect lib pPara lookup port result with hw | ⟨p, hp, hw⟩
    · rw [command, hw]
      exact h
    · obtain ⟨hok, hwait⟩ := hkeys hbusy p hp
      have hfree : s.wiring.slots p.connNo = none := by simp [wiring, startParams_ok hp]
      rw [command, hw]
      refine h.start hb hfree _ hok fun hin d hd => ?_
      obtain ⟨l, hl, rfl⟩ := live_wiring.mp hd
      exact hwait hin l hl
  | server pPara result =>
    simp only [command, atSetupCmdTCPServer]
    split
    · exact h
    · rename_i p _
      split
      · rcases s.wiring_tcpServerCreate p result with hw | ⟨-, hw | hw⟩
        · rw [hw]
          exact h
        · rw [hw]
          exact h.openServer hb p.srvN
        · rw [hw]
          exact { h.openServer hb p.srvN with }
      · rcases s.wiring_tcpServerDelete p.srvN with hw | ⟨srv, -, hw | hw⟩
        · rw [hw]
          exact h
        · rw [hw]
          exact { h with }
        · rw [hw]
          exact { h with }
  | close pPara =>
    rw [command, wiring_atSetupCmdTCPClose]
    exact h
  | send pPara host result =>
    rw [command, wiring_atSetupCmdTCPSend]
    exact h

theorem owned_found {c : ℕ} {ip : Option Ip} (port : UInt16) (result : Int8) (h : s.wiring.Owned)
    (hb : s.wiring.Blocks role) (hc : c ∈ s.lookups)
    (hkeys : KeysDistinct lib (.event (.found c ip port result)) s) :
    ((s.wiring.dropLookup c).resolve c ip (result = 0)).Owned := by
  obtain ⟨i, t, ht, rfl⟩ := h.waiting c hc
  have hwait : t.conn ∉ (s.wiring.dropLookup t.conn).lookups := by simp [Wiring.dropLookup]
  have hdrop := h.dropLookup t.conn
  refine hdrop.toSlotted.resolve (hb.dropLookup t.conn) ht (hb.lookup _ hc).2 (hb.waiting _ hc) hwait ip _ ?_ ?_ ?_
  · intro a ha
    obtain ⟨u, hu, rfl⟩ : ∃ u, s.tcpconns i = some u ∧ u.slot = t := by simpa [wiring] using ht
    exact hkeys i u a hu rfl ha
  · exact fun j u d _ hu hd => h.owner j u d hu hd
  · exact fun _ => hdrop

theorem owned_event (e : Event) (h : s.wiring.Owned) (hb : s.wiring.Blocks role) (hs : s.crashed = false)
    (hkeys : KeysDistinct lib (.event e) s) : (s.event e).wiring.Owned := by
  cases e with
  | found c ip port result =>
    simp only [event]
    split
    · rename_i hc
      rw [wiring_tcpconnResolved]
      exact owned_found port result h hb hc hkeys
    · exact h
  | connected c =>
    simp only [event]
    split
    · rename_i l hl
      split
      · rename_i hcond
        rw [wiring_espconnClientConnect _ _ (by simp [connectCallback_of_outgoing hb hl hcond.1])]
        exact h
      · exact h
    · exact h
  | accepted server ip port =>
    simp only [event]
    split
    · rename_i hmem
      obtain ⟨hlt, hrole⟩ := hb.listening server hmem
      rcases s.wiring_espconnTcpAccept ip port hlt.ne with hw | hw | ⟨i, k, hi, -, hw⟩
      · rw [hw]
        exact h
      · rw [hw]
        exact h.accept hb hlt hrole fun i t ht => hkeys.1 i t ht (hb.slot i t ht).1.ne
      · rw [hw]
        exact h.acceptLink hb hlt hrole hkeys hi
    · exact h
  | received c data host =>
    simp only [event]
    split
    · split
      · rw [wiring_espconnRecv]
        exact h
      · exact h
    · exact h
  | sent c =>
    simp only [event]
    split
    · split
      · rw [wiring_espconnTcpFinish]
        exact h
      · exact h
    · exact h
  | failed c =>
    simp only [event]
    split
    · rename_i l hl
      split
      · obtain ⟨hc, -, hmem⟩ := mem_wiring_links hl
        rw [wiring_espconnTcpReconnect _ _ (s.espconnTcpReconnect_crashed l hs), hc]
        exact h.endLink hb hmem _
      · exact h
    · exact h
  | closed c =>
    simp only [event]
    split
    · rename_i l hl
      split
      · obtain ⟨hc, -, hmem⟩ := mem_wiring_links hl
        cases hcrash : (s.espconnTcpDisconnectSuccessful l).crashed with
        | false =>
          rw [wiring_espconnTcpDisconnectSuccessful _ _ hcrash, hc]
          exact h.endLink hb hmem _
        | true =>
          rw [wiring_espconnTcpDisconnectSuccessful_crashed _ _ hs hcrash, hc]
          exact h.report hb hmem
      · exact h
    · exact h

/-- The blocks have their roles, and connections are found. -/
def Linked (s : Tcp) : Prop := (∃ role, s.wiring.Blocks role) ∧ s.wiring.Owned

theorem linked_atReset (heap : ℕ → Bool) (numTcpPcb : ℕ) : (atReset heap numTcpPcb).Linked :=
  ⟨⟨fun _ => .link, blocks_atReset _ heap numTcpPcb⟩, owned_atReset heap numTcpPcb⟩

theorem linked_step (a : Action) (h : s.Linked) (hkeys : KeysDistinct lib a s) : (s.step lib a).Linked := by
  obtain ⟨⟨role, hb⟩, ho⟩ := h
  refine ⟨blocks_step a ⟨role, hb⟩, ?_⟩
  unfold step
  split
  · exact ho
  · rename_i hs
    cases a with
    | command c =>
      simp only
      split
      · exact ho
      · rename_i hbusy
        exact owned_command c ho hb (by simpa using hbusy) hkeys
    | event e => exact owned_event e ho hb (by simpa using hs) hkeys

end Esp8266At.Tcp
