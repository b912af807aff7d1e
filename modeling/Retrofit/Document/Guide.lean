import Retrofit.Document.Structure

/-! The smaller documents. Their sections are those of the main document, so the two cannot disagree. -/
namespace Retrofit.Document

def overviewName : String := "MASTER_DOCUMENTATION.md"
def readmeName : String := "README.md"
def architectureName : String := "ARCHITECTURE.md"
def migrationName : String := "MIGRATION_GUIDE.md"
def debtName : String := "TECHNICAL_DEBT.md"
def apiName : String := "API_REFERENCE.md"
def testingName : String := "TESTING_GUIDE.md"

def readmeLinks (p : Project) : List String :=
  [s!"- [Architecture]({architectureName}) - System design and structure",
    s!"- [API Reference]({apiName}) - Function documentation",
    s!"- [Migration Guide]({migrationName}) - How to modernize",
    s!"- [Testing Guide]({testingName}) - Validation and tests"] ++
    if p.debts.isEmpty then []
    else [s!"- [Technical Debt]({debtName}) - Issues and resolutions"]

def readme (p : Project) (summary : String) : String :=
  Text.join "\n" [
    s!"# {p.modernName}", "",
    p.summary, "",
    "## Overview", "",
    s!"This is the modernized version of `{p.legacyName}`.", "",
    s!"**Language:** {Text.upper p.language}  ",
    s!"**Target Version:** {Target.version p.language}", "",
    "## Changes Summary", "",
    summary, "",
    "## Quick Start", "",
    s!"See [{migrationName}]({migrationName}) for detailed setup instructions.", "",
    "## Documentation", "",
    Text.join "\n" (readmeLinks p), "",
    "## Status", "",
    "✅ Modernization Complete  ",
    s!"📊 Technical Debt Resolved: {p.debts.length} items", ""]

def architectureGuide (p : Project) : String :=
  let patterns := p.designPatterns
  Text.join "\n" [
    "# Architecture Documentation", "",
    "## System Overview", "",
    p.summary, "",
    "## Module Structure", "",
    architecture p, "",
    "## Design Patterns", "",
    if patterns.isEmpty then "Standard patterns applied" else Text.join ", " patterns, "",
    "## Dependencies", "",
    if p.dependencies.isEmpty then "No external dependencies"
    else Text.join "\n" (p.dependencies.map fun d => s!"- {d}"), ""]

def migrationGuide (p : Project) : String :=
  Text.join "\n" [
    "# Migration Guide", "",
    "## Step-by-Step Modernization", "",
    executionGuide p, "",
    "## Validation", "",
    checklist p, "",
    "## Code Comparison", "",
    s!"See complete before/after comparison in [{overviewName}]({overviewName}).", ""]

def debtGuide (p : Project) : String :=
  Text.join "\n" [
    "# Technical Debt Analysis", "",
    debtSection p, "",
    "## Summary", "",
    s!"Total Items: {p.debts.length}  ",
    s!"Critical: {p.debtCount .critical}  ",
    s!"High: {p.debtCount .high}  ",
    s!"Medium: {p.debtCount .medium}  ",
    s!"Low: {p.debtCount .low}", ""]

def testingGuide (p : Project) : String :=
  let modules := p.modules.map fun m => s!"- {m.name} ({m.functions.length} functions)"
  Text.join "\n" [
    "# Testing Guide", "",
    "## Test Strategy", "",
    checklist p, "",
    "## Unit Tests", "",
    "Create tests for each function in the following modules:", "",
    Text.join "\n" modules, "",
    "## Example Test Structure",
    s!"```{p.language}",
    (conventionsOf p).testExample,
    "```", ""]

end Retrofit.Document
