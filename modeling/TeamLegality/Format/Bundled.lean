import TeamLegality.Format.Registry

/-!
# The bundled formats

The formats and rules that are there when no other list is given, in their order, and the short
names under which some of them are found.
-/

namespace TeamLegality.Bundled

/-- The formats of the latest generation. -/
def currentFormats : List FormatRecord := [
  { heading := "Gen 7 Singles" },
  { name := "[Gen 7] Random Battle", mod := some "gen7", team := some "random",
    desc := "Randomized teams of level-balanced Pokémon",
    ruleset := ["Pokemon", "Sleep Clause Mod", "HP Percentage Mod", "Cancel Mod"] },
  { name := "[Gen 7] OU", mod := some "gen7", ruleset := ["Pokemon", "Standard", "Team Preview"],
    banlist := ["Uber", "Arena Trap", "Power Construct", "Shadow Tag", "Baton Pass"] },
  { name := "[Gen 7] Ubers", mod := some "gen7",
    ruleset := ["Pokemon", "Standard", "Team Preview", "Mega Rayquaza Clause"],
    banlist := ["Baton Pass"] },
  { name := "[Gen 7] UU", mod := some "gen7", ruleset := ["[Gen 7] OU"],
    banlist := ["OU", "UUBL", "Drizzle", "Drought", "Kommonium Z", "Mewnium Z"] },
  { name := "[Gen 7] RU", mod := some "gen7", ruleset := ["[Gen 7] UU"],
    banlist := ["UU", "RUBL", "Aurora Veil"], unbanlist := ["Drought"] },
  { name := "[Gen 7] NU", mod := some "gen7", ruleset := ["[Gen 7] RU"],
    banlist := ["RU", "NUBL", "Drought"] },
  { name := "[Gen 7] PU", mod := some "gen7", ruleset := ["[Gen 7] NU"],
    banlist := ["NU", "PUBL"] },
  { name := "[Gen 7] LC", mod := some "gen7", maxLevel := 5,
    ruleset := ["Pokemon", "Standard", "Swagger Clause", "Team Preview", "Little Cup"],
    banlist := ["Aipom", "Cutiefly", "Drifloon", "Gligar", "Gothita", "Meditite", "Misdreavus",
      "Murkrow", "Porygon", "Scyther", "Sneasel", "Swirlix", "Tangela", "Torchic", "Vulpix-Base",
      "Wingull", "Yanma", "Eevium Z", "Dragon Rage", "Sonic Boom"] },
  { name := "[Gen 7] Anything Goes", mod := some "gen7",
    ruleset := ["Pokemon", "Endless Battle Clause", "Team Preview", "HP Percentage Mod",
      "Cancel Mod"], banlist := ["Illegal", "Unreleased"] }]

/-- The formats of past generations. -/
def pastFormats : List FormatRecord := [
  { heading := "Past Generations" },
  { name := "[Gen 6] OU", mod := some "gen6",
    ruleset := ["Pokemon", "Standard", "Team Preview", "Swagger Clause"],
    banlist := ["Uber", "Arena Trap", "Shadow Tag", "Soul Dew", "Baton Pass"] },
  { name := "[Gen 6] Ubers", mod := some "gen6",
    ruleset := ["Pokemon", "Standard", "Swagger Clause", "Team Preview", "Mega Rayquaza Clause"] },
  { name := "[Gen 6] UU", mod := some "gen6", ruleset := ["[Gen 6] OU"],
    banlist := ["OU", "UUBL", "Drizzle", "Drought"] },
  { name := "[Gen 6] RU", mod := some "gen6", ruleset := ["[Gen 6] UU"],
    banlist := ["UU", "RUBL"] },
  { name := "[Gen 6] NU", mod := some "gen6", ruleset := ["[Gen 6] RU"],
    banlist := ["RU", "NUBL"] },
  { name := "[Gen 6] PU", mod := some "gen6", ruleset := ["[Gen 6] NU"],
    banlist := ["NU", "PUBL", "Chatter"] },
  { name := "[Gen 6] LC", mod := some "gen6", maxLevel := 5,
    ruleset := ["Pokemon", "Standard", "Team Preview", "Little Cup"],
    banlist := ["LC Uber", "Gligar", "Misdreavus", "Scyther", "Sneasel", "Tangela", "Dragon Rage",
      "Sonic Boom", "Swagger"] },
  { name := "[Gen 6] Anything Goes", mod := some "gen6",
    ruleset := ["Pokemon", "Endless Battle Clause", "Team Preview", "HP Percentage Mod",
      "Cancel Mod"], banlist := ["Illegal", "Unreleased"] },
  { name := "[Gen 6] CAP", mod := some "gen6", ruleset := ["[Gen 6] OU", "Allow CAP"] },
  { name := "[Gen 5] OU", mod := some "gen5",
    ruleset := ["Pokemon", "Standard", "Evasion Abilities Clause", "Baton Pass Clause",
      "Swagger Clause", "Team Preview"],
    banlist := ["Uber", "Arena Trap", "Sand Rush", "Soul Dew"] },
  { name := "[Gen 5] Ubers", mod := some "gen5",
    ruleset := ["Pokemon", "Team Preview", "Standard Ubers"] },
  { name := "[Gen 5] UU", mod := some "gen5",
    ruleset := ["Pokemon", "Standard", "Evasion Abilities Clause", "Baton Pass Clause",
      "Swagger Clause", "Team Preview"],
    banlist := ["Uber", "OU", "UUBL", "Arena Trap", "Drought", "Sand Stream", "Snow Warning"] },
  { name := "[Gen 5] RU", mod := some "gen5", ruleset := ["[Gen 5] UU"],
    banlist := ["UU", "RUBL", "Shell Smash + Baton Pass"] },
  { name := "[Gen 5] NU", mod := some "gen5", ruleset := ["[Gen 5] RU"],
    banlist := ["RU", "NUBL", "Prankster + Assist"] },
  { name := "[Gen 5] LC", mod := some "gen5", maxLevel := 5,
    ruleset := ["Pokemon", "Standard", "Team Preview", "Little Cup"],
    banlist := ["Berry Juice", "Soul Dew", "Dragon Rage", "Sonic Boom", "LC Uber", "Sand Rush",
      "Gligar", "Murkrow", "Scyther", "Sneasel", "Tangela"] },
  { name := "[Gen 4] OU", mod := some "gen4",
    ruleset := ["Pokemon", "Standard", "Evasion Abilities Clause", "Baton Pass Clause"],
    banlist := ["Uber", "Soul Dew"] },
  { name := "[Gen 4] Ubers", mod := some "gen4", ruleset := ["Pokemon", "Standard"],
    banlist := ["Arceus"] },
  { name := "[Gen 4] UU", mod := some "gen4", ruleset := ["Pokemon", "Standard"],
    banlist := ["Uber", "OU", "UUBL"] },
  { name := "[Gen 4] NU", mod := some "gen4", ruleset := ["[Gen 4] UU"],
    banlist := ["UU", "NUBL"] },
  { name := "[Gen 4] LC", mod := some "gen4", maxLevel := 5,
    ruleset := ["Pokemon", "Standard", "Little Cup"],
    banlist := ["LC Uber", "Misdreavus", "Murkrow", "Scyther", "Sneasel", "Tangela", "Yanma",
      "Berry Juice", "Deep Sea Tooth", "Dragon Rage", "Sonic Boom"] },
  { name := "[Gen 3] OU", mod := some "gen3", ruleset := ["Pokemon", "Standard"],
    banlist := ["Uber", "Smeargle + Ingrain"] },
  { name := "[Gen 3] Ubers", mod := some "gen3", ruleset := ["Pokemon", "Standard"],
    banlist := ["Smeargle + Ingrain", "Wobbuffet + Leftovers"] },
  { name := "[Gen 3] UU", mod := some "gen3", ruleset := ["[Gen 3] OU"],
    banlist := ["OU", "UUBL"] },
  { name := "[Gen 3] NU", mod := some "gen3", ruleset := ["[Gen 3] UU"], banlist := ["UU"] },
  { name := "[Gen 2] OU", mod := some "gen2", ruleset := ["Pokemon", "Standard"],
    banlist := ["Uber"] },
  { name := "[Gen 1] OU", mod := some "gen1", ruleset := ["Pokemon", "Standard"],
    banlist := ["Uber"] }]

/-- The rules and rule sets that formats refer to. -/
def ruleFormats : List FormatRecord := [
  { heading := "Rules" },
  { name := "Standard", effectType := .validatorRule,
    desc := "The standard ruleset for all official Smogon singles tiers (Ubers, OU, etc.)",
    ruleset := ["Sleep Clause Mod", "Species Clause", "Nickname Clause", "OHKO Clause",
      "Moody Clause", "Evasion Moves Clause", "Endless Battle Clause", "HP Percentage Mod",
      "Cancel Mod"], banlist := ["Unreleased", "Illegal"] },
  { name := "Standard Ubers", effectType := .validatorRule,
    desc := "The standard ruleset for [Gen 5] Ubers",
    ruleset := ["Sleep Clause Mod", "Species Clause", "Nickname Clause", "Moody Clause",
      "OHKO Clause", "Endless Battle Clause", "HP Percentage Mod", "Cancel Mod"],
    banlist := ["Unreleased", "Illegal"] },
  { name := "Pokemon", effectType := .validatorRule,
    desc := "Applies the basic limitations of the games: level 100, 6 Pokémon, 4 moves, "
      ++ "no CAP, no future-generation content",
    banlist := ["Chansey + Charm + Seismic Toss", "Chansey + Charm + Psywave",
      "Blissey + Charm + Seismic Toss", "Blissey + Charm + Psywave",
      "Shiftry + Leaf Blade + Sucker Punch"] },
  { name := "Little Cup", effectType := .validatorRule,
    desc := "Only allows Pokémon that can evolve and don't have any prior evolutions" },
  { name := "Species Clause", effectType := .validatorRule,
    desc := "Prevents teams from having more than one Pokémon from the same species" },
  { name := "Nickname Clause", effectType := .validatorRule,
    desc := "Prevents teams from having more than one Pokémon with the same nickname" },
  { name := "OHKO Clause", effectType := .validatorRule,
    desc := "Bans all OHKO moves, such as Fissure" },
  { name := "Evasion Abilities Clause", effectType := .validatorRule,
    desc := "Bans abilities that boost Evasion under certain weather conditions",
    banlist := ["Sand Veil", "Snow Cloak"] },
  { name := "Evasion Moves Clause", effectType := .validatorRule,
    desc := "Bans moves that consistently raise the user's evasion when used",
    banlist := ["Minimize", "Double Team"] },
  { name := "Endless Battle Clause", effectType := .rule,
    desc := "Prevents players from forcing a battle which their opponent cannot end "
      ++ "except by forfeit" },
  { name := "Moody Clause", effectType := .validatorRule, desc := "Bans the ability Moody",
    banlist := ["Moody"] },
  { name := "Swagger Clause", effectType := .validatorRule, desc := "Bans the move Swagger",
    banlist := ["Swagger"] },
  { name := "Baton Pass Clause", effectType := .validatorRule,
    desc := "Stops teams from having more than one Pokémon with Baton Pass, and no "
      ++ "Pokémon may be capable of passing boosts to both Speed and another stat" },
  { name := "HP Percentage Mod", effectType := .rule,
    desc := "Shows the HP of Pokémon in percentages" },
  { name := "Cancel Mod", effectType := .rule,
    desc := "Allows players to change their own choices before their opponents make one" },
  { name := "Sleep Clause Mod", effectType := .rule,
    desc := "Prevents players from putting more than one of their opponent's Pokémon to "
      ++ "sleep at a time, and bans Mega Gengar from using Hypnosis",
    banlist := ["Hypnosis + Gengarite"] },
  { name := "Switch Priority Clause Mod", effectType := .rule,
    desc := "Makes a faster Pokémon switch first when double-switching" },
  { name := "Freeze Clause Mod", effectType := .rule,
    desc := "Prevents players from freezing more than one of their opponent's Pokémon at "
      ++ "a time" },
  { name := "Team Preview", effectType := .rule,
    desc := "Allows each player to see the Pokémon on their opponent's team before they "
      ++ "choose their lead Pokémon" },
  { name := "Mega Rayquaza Clause", effectType := .rule,
    desc := "Prevents Rayquaza from mega evolving" },
  { name := "Allow CAP", effectType := .validatorRule,
    desc := "Allows the use of Pokémon, abilities, moves, and items made by the "
      ++ "Create-A-Pokémon project" }]

/-- The bundled formats. -/
def records : List FormatRecord := currentFormats ++ pastFormats ++ ruleFormats

/-- The short names. -/
def aliases : Json := .obj
  [("ou", .str "[Gen 7] OU"), ("uber", .str "[Gen 7] Ubers"), ("ubers", .str "[Gen 7] Ubers"),
  ("uu", .str "[Gen 7] UU"), ("ru", .str "[Gen 7] RU"), ("nu", .str "[Gen 7] NU"),
  ("pu", .str "[Gen 7] PU"), ("lc", .str "[Gen 7] LC"), ("ag", .str "[Gen 7] Anything Goes"),
  ("randbats", .str "[Gen 7] Random Battle")]

/-- The registry of the bundled formats. -/
def load (config : Config) (dexes : DexCollection) : Except RegistryError FormatRegistry :=
  FormatRegistry.build config dexes aliases (records.map .record)

end TeamLegality.Bundled
