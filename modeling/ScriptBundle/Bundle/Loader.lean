/-
# The module loader

The script in front of every bundle.  Pages load several bundles, and the loaders of all of them
chain through the global `require`, so the text is fixed to the last character.

## Main content

- `Loader.script` is the text of the loader: a function of a module table, a cache and the entries.
-/
import ScriptBundle.Text.Basic

namespace ScriptBundle

namespace Loader

/-- The lines of the loader. -/
def lines : List String := [
  "// modules are defined as an array",
  "// [ module function, map of requires ]",
  "//",
  "// map of requires is short require name -> numeric require",
  "//",
  "// anything defined in a previous bundle is accessed via the",
  "// orig method which is the require for previous bundles",
  "",
  "(function outer (modules, cache, entry) \x7b",
  "    // Save the require from previous bundle to this closure if any",
  "    var previousRequire = typeof require == \"function\" && require;",
  "",
  "    function newRequire(name, jumped)\x7b",
  "        if(!cache[name]) \x7b",
  "            if(!modules[name]) \x7b",
  "                // if we cannot find the the module within our internal map or",
  "                // cache jump to the current global require ie. the last bundle",
  "                // that was added to the page.",
  "                var currentRequire = typeof require == \"function\" && require;",
  "                if (!jumped && currentRequire) return currentRequire(name, true);",
  "",
  "                // If there are other bundles on this page the require from the",
  "                // previous one is saved to 'previousRequire'. Repeat this as",
  "                // many times as there are bundles until the module is found or",
  "                // we exhaust the require chain.",
  "                if (previousRequire) return previousRequire(name, true);",
  "                var err = new Error('Cannot find module \\'' + name + '\\'');",
  "                err.code = 'MODULE_NOT_FOUND';",
  "                throw err;",
  "            \x7d",
  "            var m = cache[name] = \x7bexports:\x7b\x7d\x7d;",
  "            modules[name][0].call(m.exports, function(x)\x7b",
  "                var id = modules[name][1][x];",
  "                return newRequire(id ? id : x);",
  "            \x7d,m,m.exports,outer,modules,cache,entry);",
  "        \x7d",
  "        return cache[name].exports;",
  "    \x7d",
  "    for(var i=0;i<entry.length;i++) newRequire(entry[i]);",
  "",
  "    // Override the current require with this new one",
  "    return newRequire;",
  "\x7d)"]

/-- The text of the loader. -/
def script : Text := Text.join ['\n'] (lines.map String.toList)

end Loader

end ScriptBundle
