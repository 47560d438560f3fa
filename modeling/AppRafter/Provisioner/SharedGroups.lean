import AppRafter.Provisioner.Names

set_option autoImplicit false

namespace AppRafter.Provisioner

open Lib List

-- It is also the database's name and the channel prefix of a shared cache.
def sharedGroup (key : ClaimKey) : String :=
  String.ofList (Text.replaceFirst "claim_".toList "shd_".toList (pgIdentifier key).toList)

def sharedReaderGroup (key : ClaimKey) : String := sharedGroup key ++ "_ro"

-- The server cuts an identifier to 63 bytes; these are all ASCII.
def serverName (ident : String) : String := String.ofList (ident.toList.take 63)

def folded (key : ClaimKey) : List Char := (key.ns ++ "_" ++ key.name).toList.map pgChar

def groupsOf (key : ClaimKey) : List String := [serverName (sharedGroup key), serverName (sharedReaderGroup key)]

structure GroupsApart (a b : ClaimKey) : Prop where
  within : ∀ key ∈ [a, b], (groupsOf key).Nodup
  across : ∀ group ∈ groupsOf a, group ∉ groupsOf b

variable (key : ClaimKey)

theorem shared_group_chars : (sharedGroup key).toList = "shd_".toList ++ (folded key).take 57 := by
  have cut : (pgIdentifier key).toList = "claim_".toList ++ (folded key).take 57 := by
    rw [pgIdentifier, String.toList_ofList]
    rfl
  rw [sharedGroup, String.toList_ofList, cut]
  exact Text.replace_first_head 'c' "laim_".toList _ _

theorem group_chars : (serverName (sharedGroup key)).toList = "shd_".toList ++ (folded key).take 57 := by
  rw [serverName, String.toList_ofList, shared_group_chars]
  apply take_of_length_le
  rw [length_append, length_take]
  change 4 + _ ≤ 63
  omega

theorem reader_group_chars :
    (serverName (sharedReaderGroup key)).toList = "shd_".toList ++ ((folded key).take 57 ++ "_ro".toList).take 59 := by
  rw [serverName, String.toList_ofList, sharedReaderGroup, String.toList_append, shared_group_chars, append_assoc]
  rfl

def foldsClear (a b : ClaimKey) : Bool :=
  (folded a).take 57 != (folded b).take 57 && (folded a).take 57 != folded b ++ "_ro".toList &&
    (folded b).take 57 != folded a ++ "_ro".toList

variable (a b : ClaimKey)

theorem owners_alike : serverName (sharedGroup a) = serverName (sharedGroup b) ↔ (folded a).take 57 = (folded b).take 57 := by
  rw [← String.toList_inj, group_chars, group_chars]
  rw [append_right_inj]

theorem suffix_uncut {base : List Char} (short : base.length ≤ 54) :
    (base.take 57 ++ "_ro".toList).take 59 = base ++ "_ro".toList := by
  have whole : base.take 57 = base := take_of_length_le (by omega)
  rw [whole]
  apply take_of_length_le
  rw [length_append]
  change base.length + 3 ≤ 59
  omega

-- Past 56 characters the suffix loses its end, and the names still tell the bases.
theorem suffix_injective (a b : List Char) (fitsA : a.length ≤ 57) (fitsB : b.length ≤ 57)
    (same : (a ++ "_ro".toList).take 59 = (b ++ "_ro".toList).take 59) : a = b := by
  have lengths := congrArg List.length same
  simp only [length_take, length_append] at lengths
  change min 59 (a.length + 3) = min 59 (b.length + 3) at lengths
  by_cases equal : a.length = b.length
  · have first := congrArg (List.take a.length) same
    rw [take_take, take_take, Nat.min_eq_left (by omega), take_left', equal, take_left'] at first
    · exact first
    · rfl
    · rfl
  · have here := congrArg (fun chars => chars[57]?) same
    simp only [getElem?_take, show 57 < 59 by omega, if_true] at here
    have sizes : (a.length = 57 ∧ b.length = 56) ∨ (a.length = 56 ∧ b.length = 57) := by omega
    rcases sizes with ⟨long, brief⟩ | ⟨brief, long⟩
    · rw [getElem?_append_right (by omega), getElem?_append_right (by omega), long, brief] at here
      cases here
    · rw [getElem?_append_right (by omega), getElem?_append_right (by omega), long, brief] at here
      cases here

theorem readers_alike :
    serverName (sharedReaderGroup a) = serverName (sharedReaderGroup b) ↔ (folded a).take 57 = (folded b).take 57 := by
  rw [← String.toList_inj, reader_group_chars, reader_group_chars]
  constructor
  · intro same
    apply suffix_injective
    · exact length_take_le ..
    · exact length_take_le ..
    · exact append_cancel_left same
  · intro same
    rw [same]

theorem owner_reads_as_reader :
    serverName (sharedGroup a) = serverName (sharedReaderGroup b) ↔ (folded a).take 57 = folded b ++ "_ro".toList := by
  rw [← String.toList_inj, group_chars, reader_group_chars]
  have fits : ((folded a).take 57).length ≤ 57 := length_take_le ..
  constructor
  · intro same
    have same := append_cancel_left same
    have lengths := congrArg List.length same
    simp only [length_take, length_append] at lengths
    change _ = min 59 (min 57 (folded b).length + 3) at lengths
    rw [same]
    exact suffix_uncut (by omega)
  · intro same
    have lengths := congrArg List.length same
    rw [length_append] at lengths
    change _ = (folded b).length + 3 at lengths
    rw [same, suffix_uncut (by omega)]

theorem owner_not_reader : serverName (sharedGroup key) ≠ serverName (sharedReaderGroup key) := by
  intro same
  have lengths := congrArg List.length ((owner_reads_as_reader key key).mp same)
  rw [length_take, length_append] at lengths
  change _ = (folded key).length + 3 at lengths
  omega

theorem mem_groups (group : String) :
    group ∈ groupsOf key ↔ group = serverName (sharedGroup key) ∨ group = serverName (sharedReaderGroup key) := by
  simp [groupsOf]

theorem groups_apart_iff : GroupsApart a b ↔ foldsClear a b = true := by
  simp only [foldsClear, Bool.and_eq_true, bne_iff_ne]
  constructor
  · intro apart
    have across : ∀ group, group = serverName (sharedGroup a) ∨ group = serverName (sharedReaderGroup a) →
        ¬(group = serverName (sharedGroup b) ∨ group = serverName (sharedReaderGroup b)) := by
      intro group mine theirs
      exact apart.across group ((mem_groups a group).mpr mine) ((mem_groups b group).mpr theirs)
    refine ⟨⟨?_, ?_⟩, ?_⟩
    · intro same
      exact across _ (.inl rfl) (.inl ((owners_alike a b).mpr same))
    · intro same
      exact across _ (.inl rfl) (.inr ((owner_reads_as_reader a b).mpr same))
    · intro same
      exact across _ (.inr rfl) (.inl ((owner_reads_as_reader b a).mpr same).symm)
  · rintro ⟨⟨bases, first⟩, second⟩
    constructor
    · intro key _
      simp [groupsOf, owner_not_reader key]
    · intro group mine theirs
      rcases (mem_groups a group).mp mine with rfl | rfl
      · rcases (mem_groups b _).mp theirs with same | same
        · exact bases ((owners_alike a b).mp same)
        · exact first ((owner_reads_as_reader a b).mp same)
      · rcases (mem_groups b _).mp theirs with same | same
        · exact second ((owner_reads_as_reader b a).mp same.symm)
        · exact bases ((readers_alike a b).mp same)

-- The reader group of one is the owner group of the other.
theorem groups_cross : (⟨"apps", "orders"⟩ : ClaimKey).admitted = true ∧ (⟨"apps", "orders-ro"⟩ : ClaimKey).admitted = true ∧
      serverName (sharedReaderGroup ⟨"apps", "orders"⟩) = serverName (sharedGroup ⟨"apps", "orders-ro"⟩) ∧
      ¬GroupsApart ⟨"apps", "orders"⟩ ⟨"apps", "orders-ro"⟩ := by
  have reads : serverName (sharedReaderGroup ⟨"apps", "orders"⟩) = serverName (sharedGroup ⟨"apps", "orders-ro"⟩) :=
    ((owner_reads_as_reader ⟨"apps", "orders-ro"⟩ ⟨"apps", "orders"⟩).mpr (by decide)).symm
  refine ⟨by decide, by decide, reads, ?_⟩
  intro apart
  apply apart.across _ ((mem_groups _ _).mpr (.inr rfl))
  exact (mem_groups _ _).mpr (.inl reads)

inductive Access where
  | readWrite
  | readOnly
deriving DecidableEq

def Access.fromSpec (access : Option String) : Access :=
  match access with
  | some "ro" => .readOnly
  | some "rw" => .readWrite
  | none => .readWrite
  | some _ => .readOnly

def doubled (mark : Char) (s : String) : String :=
  String.ofList (s.toList.flatMap fun c => if c = mark then [mark, mark] else [c])

def quoteIdent (ident : String) : String := "\"" ++ doubled '"' ident ++ "\""

-- A grant on the objects of a schema says nothing about roles and keeps its text.
inductive Statement where
  | createGroup (group : String)
  | grantSet (group member : String)
  | bindRole (role password : String)
  | grant (group member : String)
  | grantConnect (database group : String)
  | setRole (role database group : String)
  | onSchema (text : String)
  | dropGroup (group : String)

def createGroups (platformRole : String) : List Statement :=
  [sharedGroup key, sharedReaderGroup key].flatMap fun group => [.createGroup group, .grantSet group platformRole]

def bindConsumer (consumerRole database password : String) (access : Access) : List Statement :=
  let group := match access with
    | .readWrite => sharedGroup key
    | .readOnly => sharedReaderGroup key
  [.bindRole consumerRole password, .grant group consumerRole, .grantConnect database group] ++
    if access = .readWrite then [.setRole consumerRole database (sharedGroup key)] else []

def grantReader (database : String) : List Statement :=
  let owner := quoteIdent (sharedGroup key)
  let reader := quoteIdent (sharedReaderGroup key)
  [.grantConnect database (sharedReaderGroup key), .onSchema ("GRANT USAGE, CREATE ON SCHEMA public TO " ++ owner ++ ";"),
    .onSchema ("GRANT USAGE ON SCHEMA public TO " ++ reader ++ ";"),
    .onSchema ("GRANT SELECT ON ALL TABLES IN SCHEMA public TO " ++ reader ++ ";"),
    .onSchema ("GRANT SELECT ON ALL SEQUENCES IN SCHEMA public TO " ++ reader ++ ";"),
    .onSchema ("ALTER DEFAULT PRIVILEGES FOR ROLE " ++ owner ++ " IN SCHEMA public GRANT SELECT ON TABLES TO " ++ reader ++ ";"),
    .onSchema ("ALTER DEFAULT PRIVILEGES FOR ROLE " ++ owner ++ " IN SCHEMA public GRANT SELECT ON SEQUENCES TO " ++ reader ++ ";")]

def dropGroups : List Statement := [sharedReaderGroup key, sharedGroup key].map .dropGroup

-- The roles, their login passwords, memberships and SET ROLE in a database.
structure Server where
  role : String → Bool
  password : String → Option String
  member : (group role : String) → Bool
  connect : (database role : String) → Bool
  setting : (role database : String) → Option String

-- GRANT and ALTER ROLE add; a role goes with its memberships and settings.
def Server.exec (server : Server) : Statement → Server
  | .createGroup group => { server with role := fun role => role == serverName group || server.role role }
  | .grantSet group member | .grant group member =>
    { server with
      member := fun g r => (g == serverName group && r == serverName member) || server.member g r }
  | .bindRole role password =>
    { server with
      role := fun r => r == serverName role || server.role r
      password := fun r => if r = serverName role then some password else server.password r }
  | .grantConnect database group =>
    { server with
      connect := fun d r => (d == serverName database && r == serverName group) || server.connect d r }
  | .setRole role database group =>
    { server with
      setting := fun r d => if r = serverName role ∧ d = serverName database then some (serverName group)
        else server.setting r d }
  | .onSchema _ => server
  | .dropGroup group =>
    { server with
      role := fun r => r != serverName group && server.role r
      member := fun g r => g != serverName group && r != serverName group && server.member g r
      setting := fun r d => if r = serverName group then none else server.setting r d }

-- The batch stops at the first refusal; what ran before it stays.
def Server.executeAll (server : Server) (statements : List Statement) (refused : Option Nat) : Server :=
  ((refused.map fun index => statements.take index).getD statements).foldl Server.exec server

end AppRafter.Provisioner
