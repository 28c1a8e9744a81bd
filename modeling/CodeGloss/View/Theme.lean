/-!
# Themes

The colour themes there are.  A theme may be asked for without regard to the case of ASCII letters,
and a name that is none gives the usual theme.
-/

namespace CodeGloss
namespace Theme

/-- The usual theme. -/
def usual : String := "base16-ocean.dark"

/-- The themes, in order. -/
def all : List String :=
  ["InspiredGitHub", "Solarized (dark)", "Solarized (light)", "base16-eighties.dark",
    "base16-mocha.dark", "base16-ocean.dark", "base16-ocean.light"]

/-- A name with ASCII letters in lower case. -/
def lower (name : String) : String :=
  String.ofList (name.toList.map Char.toLower)

/-- The theme that is meant by a name. -/
def choose (name : String) : String :=
  if all.contains name then name
  else (all.find? fun t => lower t == lower name).getD usual

end Theme
end CodeGloss
